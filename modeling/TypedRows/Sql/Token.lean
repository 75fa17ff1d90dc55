import TypedRows.Text.Blank
import TypedRows.Text.Numeral

namespace TypedRows.Sql

-- The words and marks of a statement. White space and comments stand between them.

inductive Mark where
  | word (s : String)
  | name (s : String)
  | string (s : String)
  | integer (n : Nat)
  | real (digits : Nat) (exponent : Int)
  | parameter (index : Nat)
  | symbol (s : String)
  | illegal (s : String)
deriving DecidableEq

-- `start` and `stop` count characters of the text that the token was found in.
structure Token where
  mark : Mark
  start : Nat
  stop : Nat

-- A text ends at its first null character. So do most functions read the values of rows.
def visible (cs : List Char) : List Char := cs.takeWhile fun c => c.toNat ≠ 0

def isSpace (c : Char) : Bool :=
  c = ' ' || c = '\t' || c = '\n' || c = '\r' || c.toNat = 12

def isWordStart (c : Char) : Bool := c.isAlpha || c = '_' || 128 ≤ c.toNat

def isWordChar (c : Char) : Bool := isWordStart c || c.isDigit || c = '$'

def dropBlockComment : List Char → List Char
  | '*' :: '/' :: rest => rest
  | _ :: rest => dropBlockComment rest
  | [] => []

def quotedRun (quote : Char) : List Char → Option (List Char × List Char)
  | [] => none
  | c :: rest =>
      if c = quote then
        match rest with
        | d :: rest' =>
            if d = quote then (quotedRun quote rest').map fun (s,r) => (quote :: s,r)
            else some ([],rest)
        | [] => some ([],[])
      else (quotedRun quote rest).map fun (s,r) => (c :: s,r)

def exponentRun : List Char → Option (Int × List Char)
  | e :: rest =>
      if e = 'e' ∨ e = 'E' then
        let (negative,digits) := match rest with
          | '-' :: digits => (true,digits)
          | '+' :: digits => (false,digits)
          | digits => (false,digits)
        let (run,rest) := digits.span Char.isDigit
        if run = [] then none
        else
          let n : Int := Nat.ofDigitChars 10 run 0
          some (if negative then -n else n,rest)
      else none
  | [] => none

def numberMark (cs : List Char) : Mark × List Char :=
  let (whole,rest) := cs.span Char.isDigit
  let (decimals,rest,pointed) := match rest with
    | '.' :: rest => ((rest.span Char.isDigit).1,(rest.span Char.isDigit).2,true)
    | rest => ([],rest,false)
  let (exponent,rest,scaled) := match exponentRun rest with
    | some (n,rest) => (n,rest,true)
    | none => (0,rest,false)
  if rest.head?.any isWordChar then
    (.illegal (String.ofList cs),rest.dropWhile isWordChar)
  else
    let digits := Nat.ofDigitChars 10 (whole ++ decimals) 0
    if pointed || scaled then (.real digits (exponent - decimals.length),rest)
    else (.integer digits,rest)

def twoCharSymbols : List (List Char) :=
  [['|','|'],['=','='],['!','='],['<','>'],['<','='],['>','='],['<','<'],['>','>']]

def oneCharSymbols : List Char := ['(',')',',',';','.','*','+','-','/','%','=','<','>','&','|','~']

def quotedMark (mark : String → Mark) (quote : Char) (rest : List Char) : Mark × List Char :=
  match quotedRun quote rest with
  | some (s,rest) => (mark (String.ofList s),rest)
  | none => (.illegal (String.ofList (quote :: rest)),[])

-- The first mark of a text that starts neither with white space nor with a comment.
-- `index` is the number of the next parameter.
def firstMark (index : Nat) (c : Char) (rest : List Char) : Mark × List Char :=
  if isWordStart c then
    (.word (String.ofList ((c :: rest).takeWhile isWordChar)),rest.dropWhile isWordChar)
  else if c.isDigit || (c = '.' && rest.head?.any Char.isDigit) then numberMark (c :: rest)
  else if c = '"' || c = '\x60' then quotedMark .name c rest
  else if c = '[' then
    if rest.contains ']' then
      (.name (String.ofList (rest.takeWhile (· ≠ ']'))),(rest.dropWhile (· ≠ ']')).drop 1)
    else (.illegal (String.ofList (c :: rest)),[])
  else if c = '\'' then quotedMark .string c rest
  else if c = '?' then
    if rest.head?.any Char.isDigit then (.illegal "?",rest) else (.parameter index,rest)
  else if twoCharSymbols.contains (c :: rest.take 1) then
    (.symbol (String.ofList (c :: rest.take 1)),rest.drop 1)
  else if oneCharSymbols.contains c then (.symbol (String.ofList [c]),rest)
  else (.illegal (String.ofList [c]),rest)

-- The tokens up to the end of one statement, and the text behind its semicolon if it has
-- one. `whole` is the length of the text at the start.
def tokensFrom (whole : Nat) : Nat → Nat → List Char → List Token × Option (List Char)
  | 0, _, _ => ([],none)
  | _ + 1, _, [] => ([],none)
  | fuel + 1, index, c :: rest =>
      if isSpace c then tokensFrom whole fuel index rest
      else if c = '-' ∧ rest.head? = some '-' then
        tokensFrom whole fuel index (rest.dropWhile (· ≠ '\n'))
      else if c = '/' ∧ rest.head? = some '*' then
        tokensFrom whole fuel index (dropBlockComment (rest.drop 1))
      else if c = ';' then ([],some rest)
      else
        let (mark,rest') := firstMark index c rest
        let next := match mark with
          | .parameter _ => index + 1
          | _ => index
        let (tokens,remaining) := tokensFrom whole fuel next rest'
        (⟨mark,whole - (rest.length + 1),whole - rest'.length⟩ :: tokens,remaining)

def tokens (cs : List Char) : List Token × Option (List Char) :=
  let cs := visible cs
  tokensFrom cs.length (cs.length + 1) 0 cs

end TypedRows.Sql
