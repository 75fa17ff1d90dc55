import TypedRows.Query.Text

namespace TypedRows

-- The steps of a running selection: rows, of which some cannot be read, and at the end
-- perhaps a failure.
structure Stream where
  names : List String
  rows : List (Except Error (List Value))
  failure : Option Error

inductive Cursor (ρ : Type) where
  | onDemand (decode : Row → Except Error ρ) (stream : Stream)
  | inAdvance (records : List ρ)

namespace Stream

variable {ρ : Type}

def decodeRow (decode : Row → Except Error ρ) (names : List String)
    (row : Except Error (List Value)) : Except Error ρ := do
  decode ⟨names,← row⟩

-- The first failure of any kind ends the reading.
def readAll (decode : Row → Except Error ρ) (names : List String) (failure : Option Error) :
    List (Except Error (List Value)) → Except Error (List ρ)
  | [] =>
      match failure with
      | some e => .error e
      | none => .ok []
  | row :: rest => do
      let record ← decodeRow decode names row
      return record :: (← readAll decode names failure rest)

def cursor (decode : Row → Except Error ρ) (eager : Bool) (s : Stream) :
    Except Error (Cursor ρ) :=
  if eager then (readAll decode s.names s.failure s.rows).map .inAdvance
  else .ok (.onDemand decode s)

end Stream

namespace Cursor

variable {ρ : Type}

-- A row that cannot be decoded is passed over; a failure of the stream ends it.
def next : Cursor ρ → Option (Except Error ρ) × Cursor ρ
  | .inAdvance [] => (none,.inAdvance [])
  | .inAdvance (record :: rest) => (some (.ok record),.inAdvance rest)
  | .onDemand decode s =>
      match s.rows, s.failure with
      | row :: rest, _ =>
          (some (Stream.decodeRow decode s.names row),.onDemand decode {s with rows := rest})
      | [], some e => (some (.error e),.onDemand decode {s with failure := none})
      | [], none => (none,.onDemand decode s)

def take : Nat → Cursor ρ → List (Except Error ρ) × Cursor ρ
  | 0, cursor => ([],cursor)
  | n + 1, cursor =>
      match cursor.next with
      | (none,cursor) => ([],cursor)
      | (some item,cursor) =>
          let (rest,cursor) := cursor.take n
          (item :: rest,cursor)

def bound : Cursor ρ → Nat
  | .inAdvance records => records.length
  | .onDemand _ s => s.rows.length + 1

end Cursor

end TypedRows
