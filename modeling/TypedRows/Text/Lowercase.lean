import TypedRows.Text.Casing

namespace TypedRows.Text

-- The full lower-case mapping. One character becomes two (U+0130), and the capital
-- sigma becomes the final form at the end of a word.
def lowerChar (c : Char) : List Char :=
  if c.toNat = 0x130 then ['i',Char.ofNat 0x307]
  else match capitalRuns.find? fun run =>
      run.first ≤ c.toNat && c.toNat ≤ run.last && (c.toNat - run.first) % run.stride == 0 with
    | some run => [Char.ofNat (run.small + (c.toNat - run.first))]
    | none => [c]

def isPassedOver (c : Char) : Bool := inRanges passedOverRanges c.toNat

def isCased (c : Char) : Bool := inRanges casedRanges c.toNat

def meetsCased (cs : List Char) : Bool :=
  match cs.dropWhile isPassedOver with
  | c :: _ => isCased c
  | [] => false

-- `before` holds the characters already read, nearest first.
def lowerFrom (before : List Char) : List Char → List Char
  | [] => []
  | c :: rest =>
      (if c.toNat = 0x3a3 then
        [if meetsCased before && !meetsCased rest then Char.ofNat 0x3c2 else Char.ofNat 0x3c3]
      else lowerChar c) ++ lowerFrom (c :: before) rest

def lowercase (s : String) : String := String.ofList (lowerFrom [] s.toList)

end TypedRows.Text
