namespace TypedRows

-- Named values in the order of their names; a name occurs once.
abbrev Fields (α : Type) := List (String × α)

namespace Fields

def insert {α : Type} (name : String) (value : α) : Fields α → Fields α
  | [] => [(name,value)]
  | (other,old) :: rest =>
      if name < other then (name,value) :: (other,old) :: rest
      else if name = other then (name,value) :: rest
      else (other,old) :: insert name value rest

def ofList {α : Type} (entries : List (String × α)) : Fields α :=
  entries.foldl (fun fields entry => insert entry.1 entry.2 fields) []

def get? {α : Type} (name : String) : Fields α → Option α
  | [] => none
  | (other,value) :: rest => if name = other then some value else get? name rest

theorem get?_insert {α : Type} (name wanted : String) (value : α) (fields : Fields α) :
    get? wanted (insert name value fields) =
      if wanted = name then some value else get? wanted fields := by
  induction fields with
  | nil => simp [insert,get?]
  | cons entry rest ih =>
      obtain ⟨other,old⟩ := entry
      unfold insert
      split
      · simp [get?]
      · split
        · rename_i same
          subst same
          by_cases equal : wanted = name <;> simp [get?,equal]
        · rename_i different
          by_cases equal : wanted = other
          · have apart : ¬ other = name := fun h => different h.symm
            simp [get?,equal,apart]
          · simp [get?,equal,ih]

theorem get?_map {α β : Type} (change : α → β) (name : String) (fields : Fields α) :
    get? name (fields.map fun entry => (entry.1,change entry.2)) =
      (get? name fields).map change := by
  induction fields with
  | nil => rfl
  | cons entry rest ih =>
      by_cases equal : name = entry.1 <;> simp [get?,equal,ih]

end Fields

end TypedRows
