import TypedRows.Error
import TypedRows.Sql.Characters
import TypedRows.Sql.Numeric

namespace TypedRows.Sql

-- The functions of the statement language.

inductive Function where
  | lower | upper | length | abs | instr | substr | replace | like
deriving DecidableEq

def functions : List (String × Function × List Nat) :=
  [("lower",.lower,[1]),("upper",.upper,[1]),("length",.length,[1]),("abs",.abs,[1]),
    ("instr",.instr,[2]),("substr",.substr,[2,3]),("substring",.substr,[2,3]),
    ("replace",.replace,[3]),("like",.like,[2])]

def aggregates : List String := ["count","max","min"]

-- How a comparison with a pattern ended. `stuck` says that no later start can help either.
inductive Verdict where
  | yes | no | stuck
deriving DecidableEq

def firstVerdict {α : Type} (test : List α → Verdict) : List α → Verdict
  | [] =>
      match test [] with
      | .no => .stuck
      | verdict => verdict
  | c :: cs =>
      match test (c :: cs) with
      | .no => firstVerdict test cs
      | verdict => verdict

-- `%` stands for any characters and `_` for one. ASCII letters match in both cases.
def likeVerdict : List Nat → List Nat → Verdict
  | [], [] => .yes
  | [], _ :: _ => .no
  | p :: pattern, cs =>
      if p = 0x25 then firstVerdict (likeVerdict pattern) cs
      else match cs with
        | [] => .no
        | c :: cs =>
            if p = 0x5f ∨ lowerCode p = lowerCode c then likeVerdict pattern cs else .no

def longestPattern : Nat := 50000

def likeness (pattern subject : Datum) : Except EngineError Datum :=
  match textOf pattern, textOf subject with
  | some p, s =>
      if longestPattern < p.length then .error .patternTooComplex
      else match s with
        | some s => .ok (ofTruth (some (likeVerdict (codes p) (codes s) == .yes)))
        | none => .ok .null
  | none, _ => .ok .null

-- Where `needle` starts in `whole`, counted from `position`; zero where it does not occur.
-- In text no search starts at a continuation byte; `skip` says that such bytes are passed.
def findFrom (inText : Bool) (needle : List UInt8) (position : Nat) (skip : Bool) :
    List UInt8 → Nat
  | [] => 0
  | byte :: whole =>
      if skip && isContinuation byte then findFrom inText needle position true whole
      else if needle.isPrefixOf (byte :: whole) then position
      else findFrom inText needle (position + 1) inText whole

def positionOf (whole part : Datum) : Datum :=
  let inText := match whole, part with
    | .blob _, .blob _ => false
    | _, _ => true
  match textOf whole, textOf part with
  | some _, some [] => .integer 1
  | some whole, some needle => .integer (Int64.ofInt (findFrom inText needle 1 false whole))
  | _, _ => .null

-- Positions count from one; a negative one counts from the end. A window that starts
-- before the text loses what lies there, and a negative length reaches backwards.
def window {α : Type} (whole : List α) (start length : Int) : List α :=
  let total : Int := whole.length
  let (start,length) :=
    if start < 0 then
      if total + start < 0 then (0,if length < 0 then 0 else length + total + start)
      else (total + start,length)
    else if 0 < start then (start - 1,length)
    else (0,if 0 < length then length - 1 else length)
  let (start,length) :=
    if length < 0 then
      if start < -length then (0,start) else (start + length,-length)
    else (start,length)
  (whole.drop start.toNat).take length.toNat

def longestValue : Nat := 1000000000

def substring (d start : Datum) (length : Option Datum) : Datum :=
  let length := match length with
    | none => some (longestValue : Int)
    | some length => (integerOf length).map Int64.toInt
  match integerOf start, length with
  | some start, some length =>
      match d with
      | .blob bytes => if bytes.isEmpty then .null else .blob (window bytes start.toInt length)
      | d =>
          match textOf d with
          | some bytes => .text (window (characters bytes) start.toInt length).flatten
          | none => .null
  | _, _ => .null

def mapText (f : UInt8 → UInt8) (d : Datum) : Datum :=
  match textOf d with
  | some bytes => .text (bytes.map f)
  | none => .null

def replaceFrom (old new : List UInt8) : Nat → List UInt8 → List UInt8
  | _, [] => []
  | skip + 1, _ :: bytes => replaceFrom old new skip bytes
  | 0, byte :: bytes =>
      if old.isPrefixOf (byte :: bytes) then new ++ replaceFrom old new (old.length - 1) bytes
      else byte :: replaceFrom old new 0 bytes

def occurrences (old : List UInt8) : Nat → List UInt8 → Nat
  | _, [] => 0
  | skip + 1, _ :: bytes => occurrences old skip bytes
  | 0, byte :: bytes =>
      if old.isPrefixOf (byte :: bytes) then occurrences old (old.length - 1) bytes + 1
      else occurrences old 0 bytes

-- A pattern counts as empty when it starts with a null byte, and changes nothing.
def replaced (d old new : Datum) : Except EngineError Datum :=
  match textOf d, textOf old with
  | some bytes, some old =>
      if (visibleBytes old).isEmpty then .ok (.text bytes)
      else match textOf new with
        | some new =>
            let n := occurrences old 0 bytes
            if longestValue + n * old.length < bytes.length + n * new.length then .error .tooBig
            else .ok (.text (replaceFrom old new 0 bytes))
        | none => .ok .null
  | _, _ => .ok .null

def lengthOf : Datum → Datum
  | .null => .null
  | .blob bytes => .integer (Int64.ofInt bytes.length)
  | d => .integer (Int64.ofInt (characters ((textOf d).getD [])).length)

def absolute : Datum → Except EngineError Datum
  | .integer n =>
      if n = Int64.minValue then .error .integerOverflow
      else .ok (.integer (if n < 0 then -n else n))
  | d => .ok (match doubleOf d with
      | none => .null
      | some x => .ofReal (if x.negative && !x.isZero then x.neg else x))

def Function.apply (f : Function) (args : List Datum) : Except EngineError Datum :=
  match f, args with
  | .lower, [d] => .ok (mapText lowerByte d)
  | .upper, [d] => .ok (mapText upperByte d)
  | .length, [d] => .ok (lengthOf d)
  | .abs, [d] => absolute d
  | .instr, [d,e] => .ok (positionOf d e)
  | .substr, [d,start] => .ok (substring d start none)
  | .substr, [d,start,n] => .ok (substring d start (some n))
  | .replace, [d,old,new] => replaced d old new
  | .like, [pattern,d] => likeness pattern d
  | _, _ => .ok .null

end TypedRows.Sql
