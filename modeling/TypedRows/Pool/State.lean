namespace TypedRows

inductive SlotState where
  | idle
  | inUse
  | closed
deriving DecidableEq

def SlotState.shown : SlotState → String
  | .idle => "Idle"
  | .inUse => "InUse"
  | .closed => "Closed"

end TypedRows
