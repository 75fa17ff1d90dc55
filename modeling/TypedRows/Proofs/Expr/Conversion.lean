import TypedRows.Proofs.Expr.Nodes
import TypedRows.Proofs.Value.Conversion

namespace TypedRows

-- What a conversion does to captured values, and to the arguments that are bound for them.

theorem forall₂_image {α β γ : Type} {R : α → β → Prop} {f : β → γ} {xs : List α} {zs : List γ} :
    List.Forall₂ (fun x z => ∃ y, z = f y ∧ R x y) xs zs ↔
      ∃ ys, zs = ys.map f ∧ List.Forall₂ R xs ys := by
  constructor
  · intro each
    induction each with
    | nil => exact ⟨[],rfl,.nil⟩
    | cons first _ ih =>
      obtain ⟨y,rfl,single⟩ := first
      obtain ⟨ys,rfl,later⟩ := ih
      exact ⟨y :: ys,rfl,.cons single later⟩
  · rintro ⟨ys,rfl,each⟩
    exact List.forall₂_map_right_iff.mpr (each.imp fun x y single => ⟨y,rfl,single⟩)

namespace Captured

variable {value w : Captured} {target : ValueType} {xs ys : List Value}

theorem coerceItems_ok {items ws : List Captured} :
    coerceItems target items = .ok ws ↔
      List.Forall₂ (fun item w => item.coerce target = .ok w) items ws := by
  induction items generalizing ws with
  | nil => simp [coerceItems,eq_comm]
  | cons item rest ih =>
    rw [coerceItems,bind_ok,List.forall₂_cons_left_iff]
    simp only [return_ok,ih]
    constructor
    · rintro ⟨w,first,ws,later,rfl⟩
      exact ⟨w,ws,first,later,rfl⟩
    · rintro ⟨w,ws,first,later,rfl⟩
      exact ⟨w,first,ws,later,rfl⟩

-- A conversion keeps the shape of a value, in both directions.

theorem coerce_scalar {x : Value} :
    (scalar x).coerce target = .ok w ↔ ∃ y, w = .scalar y ∧ x.coerce target = .ok y := by
  cases coerced : x.coerce target <;> simp [coerce,coerced,Except.map,eq_comm]

theorem coerce_eq_scalar {y : Value} :
    value.coerce target = .ok (.scalar y) ↔ ∃ x, value = .scalar x ∧ x.coerce target = .ok y := by
  cases value with
  | scalar x => simp [coerce_scalar]
  | list items => cases coerced : coerceItems target items <;> simp [coerce,coerced,Except.map]
  | object fields => simp [coerce]

theorem coerce_list {items : List Captured} :
    (list items).coerce target = .ok w ↔ ∃ ws, w = .list ws ∧
      List.Forall₂ (fun item w => item.coerce target = .ok w) items ws := by
  simp only [← coerceItems_ok]
  cases coerced : coerceItems target items <;> simp [coerce,coerced,Except.map,eq_comm]

theorem coerce_eq_list {ws : List Captured} :
    value.coerce target = .ok (.list ws) ↔ ∃ items, value = .list items ∧
      List.Forall₂ (fun item w => item.coerce target = .ok w) items ws := by
  cases value with
  | scalar x => simp [coerce_scalar]
  | list items => simp [coerce_list]
  | object fields => simp [coerce]

mutual

theorem coerce_coerced : ∀ {value w : Captured}, value.coerce target = .ok w →
    w.coerce target = .ok w
  | .scalar x, w, coerced => by
    obtain ⟨y,rfl,single⟩ := coerce_scalar.mp coerced
    exact coerce_scalar.mpr ⟨y,rfl,Value.coerce_coerced single⟩
  | .list items, w, coerced => by
    obtain ⟨ws,rfl,each⟩ := coerce_list.mp coerced
    exact coerce_list.mpr ⟨ws,rfl,coerceItems_ok.mp (coerceItems_coerced (coerceItems_ok.mpr each))⟩
  | .object fields, w, coerced => by cases coerced

theorem coerceItems_coerced : ∀ {items ws : List Captured}, coerceItems target items = .ok ws →
    coerceItems target ws = .ok ws
  | [], ws, coerced => by
    cases coerced
    rfl
  | item :: rest, ws, coerced => by
    obtain ⟨w,first,later⟩ := bind_ok.mp coerced
    obtain ⟨ws,found,rfl⟩ := return_ok.mp later
    exact bind_ok.mpr ⟨w,coerce_coerced first,return_ok.mpr ⟨ws,coerceItems_coerced found,rfl⟩⟩

end

theorem Bindable.unique (bindable : value.Bindable xs) (bindable' : value.Bindable ys) : xs = ys := by
  generalize same : value = value' at bindable'
  cases bindable with
  | scalar v =>
    cases bindable' with
    | scalar v' => cases same; rfl
    | list => cases same
  | list =>
    cases bindable' with
    | scalar v' => cases same
    | list => exact List.map_injective_iff.mpr (fun _ _ => scalar.inj) (list.inj same)

theorem coerce_bindable : (∃ w, value.coerce target = .ok w ∧ w.Bindable ys) ↔
    ∃ xs, value.Bindable xs ∧ List.Forall₂ (fun x y => x.coerce target = .ok y) xs ys := by
  constructor
  · rintro ⟨w,coerced,bindable⟩
    cases bindable with
    | scalar y =>
      obtain ⟨x,rfl,single⟩ := coerce_eq_scalar.mp coerced
      exact ⟨[x],.scalar x,.cons single .nil⟩
    | list =>
      obtain ⟨items,rfl,each⟩ := coerce_eq_list.mp coerced
      simp only [List.forall₂_map_right_iff,coerce_eq_scalar] at each
      obtain ⟨xs,rfl,singles⟩ := forall₂_image.mp each.flip
      exact ⟨xs,.list xs,singles.flip⟩
  · rintro ⟨xs,bindable,each⟩
    cases bindable with
    | scalar x =>
      obtain ⟨y,ys,single,none,rfl⟩ := List.forall₂_cons_left_iff.mp each
      cases none
      exact ⟨.scalar y,coerce_scalar.mpr ⟨y,rfl,single⟩,.scalar y⟩
    | list =>
      refine ⟨.list (ys.map .scalar),coerce_list.mpr ⟨_,rfl,?_⟩,.list ys⟩
      simp only [List.forall₂_map_left_iff,coerce_scalar]
      exact forall₂_image.mpr ⟨ys,rfl,each⟩

end Captured

theorem overwritten_length (olds : List Value) (items : List Captured) :
    (overwritten olds items).length = olds.length := by
  induction olds generalizing items with
  | nil => cases items <;> rfl
  | cons old rest ih =>
    cases items with
    | nil => rfl
    | cons item items => cases item <;> simp [overwritten,ih]

theorem overwritten_scalars {old new : List Value} (same : new.length = old.length) :
    overwritten old (new.map .scalar) = new := by
  induction old generalizing new with
  | nil => cases new with
    | nil => rfl
    | cons w rest => simp at same
  | cons v rest ih => cases new with
    | nil => simp at same
    | cons w tail => simp [overwritten,ih (Nat.succ.inj same)]

theorem overwritten_overwritten (olds : List Value) (items : List Captured) :
    overwritten (overwritten olds items) items = overwritten olds items := by
  induction olds generalizing items with
  | nil => cases items <;> rfl
  | cons old rest ih =>
    cases items with
    | nil => rfl
    | cons item items => cases item <;> simp [overwritten,ih]

theorem rebound_length (converted : Captured) (bound : List Value) :
    (rebound converted bound).length = bound.length := by
  cases converted with
  | scalar v =>
    change (if bound.length = 1 then [v] else bound).length = bound.length
    split
    · rename_i one
      exact one.symm
    · rfl
  | list items =>
    change (if bound.length = items.length then overwritten bound items else bound).length = _
    split
    · exact overwritten_length bound items
    · rfl
  | object fields => rfl

theorem rebound_rebound (converted : Captured) (bound : List Value) :
    rebound converted (rebound converted bound) = rebound converted bound := by
  cases converted with
  | scalar v => simp only [rebound]; split <;> simp_all
  | list items => simp only [rebound]; split <;> simp_all [overwritten_length,overwritten_overwritten]
  | object fields => rfl

-- A conversion keeps the shape of what is bound, so its values take the old places.
theorem Captured.Bindable.coerce {value w : Captured} {xs : List Value} {target : ValueType}
    (bindable : value.Bindable xs) (coerced : value.coerce target = .ok w) :
    w.Bindable (rebound w xs) ∧ w.placeholder = value.placeholder := by
  cases bindable with
  | scalar v =>
    obtain ⟨y,rfl,_⟩ := coerce_scalar.mp coerced
    exact ⟨.scalar y,rfl⟩
  | list =>
    obtain ⟨ws,rfl,each⟩ := coerce_list.mp coerced
    simp only [List.forall₂_map_left_iff,coerce_scalar] at each
    obtain ⟨ys,rfl,singles⟩ := forall₂_image.mp each
    have same := singles.length_eq.symm
    simp only [rebound,List.length_map,same,if_true,overwritten_scalars same,Captured.placeholder]
    exact ⟨.list ys,trivial⟩

end TypedRows
