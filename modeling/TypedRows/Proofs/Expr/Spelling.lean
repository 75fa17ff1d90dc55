import TypedRows.Proofs.Expr.Calls

namespace TypedRows

-- What all literal pieces of a condition have in common. A property of texts that holds of
-- whatever has neither a mark nor a quote, and of two texts in a row when it holds of both,
-- holds of every literal piece as soon as it holds of the names that the condition brings in.

variable {m : Mapping} {P : String → Prop}

structure Spelling (P : String → Prop) : Prop where
  plain : ∀ s : String, '?' ∉ s.toList → '"' ∉ s.toList → P s
  append : ∀ {s t : String}, P s → P t → P (s ++ t)

def Spelled (P : String → Prop) (tokens : List Token) : Prop := ∀ s, .literal s ∈ tokens → P s

@[simp] theorem spelled_nil : Spelled P [] := fun _ present => by cases present

@[simp] theorem spelled_literal {s : String} {rest : List Token} :
    Spelled P (.literal s :: rest) ↔ P s ∧ Spelled P rest := by
  simp [Spelled]

@[simp] theorem spelled_bound {v : Value} {rest : List Token} :
    Spelled P (.bound v :: rest) ↔ Spelled P rest := by
  simp [Spelled]

@[simp] theorem spelled_append {xs ys : List Token} :
    Spelled P (xs ++ ys) ↔ Spelled P xs ∧ Spelled P ys := by
  simp only [Spelled,List.mem_append]
  exact ⟨fun every => ⟨fun s present => every s (.inl present),fun s present => every s (.inr present)⟩,
    fun every s present => present.elim (every.1 s) (every.2 s)⟩

theorem spelled_intersperse {chunks : List (List Token)} {separator : List Token}
    (every : ∀ c ∈ chunks, Spelled P c) (apart : Spelled P separator) :
    Spelled P (chunks.intersperse separator).flatten := by
  induction chunks with
  | nil => simp
  | cons c rest ih =>
    have later := ih fun c present => every c (List.mem_cons_of_mem _ present)
    cases rest with
    | nil => simpa using every c
    | cons d rest =>
      rw [List.intersperse_cons_cons,List.flatten_cons,List.flatten_cons]
      exact spelled_append.mpr ⟨every c List.mem_cons_self,spelled_append.mpr ⟨apart,later⟩⟩

namespace Spelling

theorem listTokens (spelling : Spelling P) (vs : List Value) : Spelled P (listTokens vs) := by
  have inner : Spelled P ((vs.map Token.bound).intersperse (.literal ",")) := by
    induction vs with
    | nil => simp
    | cons v rest ih =>
      cases rest with
      | nil => simp
      | cons w rest =>
        rw [List.map_cons] at ih ⊢
        rw [List.map_cons,List.intersperse_cons_cons]
        simpa [spelling.plain] using ih
  simp [TypedRows.listTokens,inner,spelling.plain]

theorem captured (spelling : Spelling P) {value : Captured} {r : Rendering}
    (rendered : value.rendered = some r) : Spelled P r.tokens := by
  cases value with
  | scalar v =>
    cases rendered
    simp
  | list items =>
    simp only [Captured.rendered,Option.map_eq_some_iff] at rendered
    obtain ⟨vs,_,rfl⟩ := rendered
    exact spelling.listTokens vs
  | object fields => cases rendered

theorem shownNat (spelling : Spelling P) (n : Nat) : P (shownNat n) := by
  have digits : ∀ c ∈ (TypedRows.shownNat n).toList, c.isDigit = true := by
    intro c present
    rw [TypedRows.shownNat,String.toList_ofList] at present
    exact Text.isDigit_of_mem_numeral present
  exact spelling.plain _ (fun present => absurd (digits _ present) (by decide))
    fun present => absurd (digits _ present) (by decide)

theorem flattened (spelling : Spelling P) {tokens : List Token} (every : Spelled P tokens)
    (unbound : boundValues tokens = []) : P (flattened tokens) := by
  induction tokens with
  | nil => simp [spelling.plain]
  | cons token rest ih =>
    cases token with
    | literal s =>
      rw [spelled_literal] at every
      rw [flattened_literal]
      exact spelling.append every.1 (ih every.2 unbound)
    | bound v => cases unbound

theorem converted (spelling : Spelling P) {target : ValueType} {r c : Rendering}
    (every : Spelled P r.tokens) (converted : r.converted target = some c) :
    Spelled P c.tokens := by
  unfold Rendering.converted at converted
  split at converted
  · cases converted
    exact every
  · split at converted
    · cases converted
    · split at converted
      · exact spelling.captured converted
      · cases converted
        exact every

theorem length (spelling : Spelling P) {r : Rendering} {s : String} (every : Spelled P r.tokens)
    (measured : r.length? = some s) : P s := by
  unfold Rendering.length? at measured
  split at measured
  · cases measured
    exact spelling.shownNat _
  · split at measured
    · rename_i unbound
      cases measured
      have inner := spelling.flattened every (List.isEmpty_iff.mp unbound)
      exact spelling.append (spelling.append (by simp [spelling.plain]) inner) (by simp [spelling.plain])
    · cases measured
  · cases measured

theorem measured (spelling : Spelling P) {r c : Rendering} {laid : String → Rendering}
    (every : Spelled P r.tokens) (rendered : r.length?.map laid = some c)
    (around : ∀ length : String, P length → Spelled P (laid length).tokens) :
    Spelled P c.tokens := by
  obtain ⟨length,measured,rfl⟩ := Option.map_eq_some_iff.mp rendered
  exact around length (spelling.length every measured)

theorem operator (spelling : Spelling P) {op : Operator} {left right c : Rendering}
    (rendered : op.rendered left right = some c) (everyLeft : Spelled P left.tokens)
    (everyRight : Spelled P right.tokens) : Spelled P c.tokens := by
  unfold Operator.rendered Operator.rendered.nullTest at rendered
  cases op <;> simp only [Operator.sql,Option.map_some,Option.map_none] at rendered <;>
    split at rendered <;> (try split at rendered) <;> cases rendered <;>
    simp [Rendering.plain,spelled,everyLeft,everyRight,spelling.plain]

theorem method (spelling : Spelling P) {method : Method} {receiver : Option Rendering}
    {args : List Rendering} {c : Rendering} (rendered : method.rendered receiver args = some c)
    (every : ∀ r ∈ receiver.toList ++ args, Spelled P r.tokens)
    (named : ∀ name, method = .other name → P (Text.lowercase name)) : Spelled P c.tokens := by
  unfold Method.rendered at rendered
  split at rendered
  case h_5 collation subject start =>
    simp only [Option.toList_some,List.mem_append,List.mem_singleton,forall_eq_or_imp,forall_eq] at every
    split at rendered
    · cases rendered
      simp [Rendering.plain,spelled,every,spelling.plain]
    · refine spelling.measured every.2 rendered fun length inner => ?_
      have between : P (", 1, " ++ length ++ ") = ") :=
        spelling.append (spelling.append (by simp [spelling.plain]) inner) (by simp [spelling.plain])
      simp [Rendering.plain,spelled,every,spelling.plain,between]
  case h_6 collation subject ending =>
    simp only [Option.toList_some,List.mem_append,List.mem_singleton,forall_eq_or_imp,forall_eq] at every
    split at rendered
    · cases rendered
      simp [Rendering.plain,spelled,every,spelling.plain]
    · refine spelling.measured every.2 rendered fun length inner => ?_
      have back : P (", -" ++ length) := spelling.append (by simp [spelling.plain]) inner
      have between : P (", -" ++ length ++ ", " ++ length ++ ") = ") :=
        spelling.append (spelling.append (spelling.append back (by simp [spelling.plain])) inner)
          (by simp [spelling.plain])
      simp [Rendering.plain,spelled,every,spelling.plain,between]
  case h_11 name =>
    cases rendered
    have operands : ∀ c ∈ (receiver.toList ++ args).map Rendering.tokens, Spelled P c := by
      intro c present
      obtain ⟨r,member,rfl⟩ := List.mem_map.mp present
      exact every r member
    have comma : Spelled P (spelled ",") := by simp [spelled,spelling.plain]
    have opening : P (Text.lowercase name ++ "(") :=
      spelling.append (named name rfl) (by simp [spelling.plain])
    simpa [Rendering.plain,spelled,spelling.plain,opening] using spelled_intersperse operands comma
  case h_4 whole part =>
    simp only [Option.toList_some,List.mem_append,List.mem_singleton,forall_eq_or_imp,forall_eq] at every
    split at rendered <;> cases rendered <;> simp [Rendering.plain,spelled,every,spelling.plain]
  case h_12 => cases rendered
  all_goals
    cases rendered
    simp at every
    simp [Rendering.plain,spelled,every,spelling.plain]

end Spelling

theorem render_member {receiver : Expr} {field : String} (captured : receiver ≠ .parameter) :
    (Expr.member receiver field).render m = match receiver.evaluate with
      | .ok (.object fields) => do (← Fields.get? field fields).rendered
      | _ => none := by
  cases receiver with
  | parameter => exact absurd rfl captured
  | _ => rfl

structure Expr.NamesSpelled (P : String → Prop) (m : Mapping) (e : Expr) : Prop where
  columns : ∀ c ∈ m.columns, P (quotedName c.name)
  methods : ∀ name receiver args, .call (.other name) receiver args ∈ e.parts →
    P (Text.lowercase name)

theorem Expr.NamesSpelled.part {e e' : Expr} (names : e.NamesSpelled P m)
    (inside : ∀ part ∈ e'.parts, part ∈ e.parts) : e'.NamesSpelled P m where
  columns := names.columns
  methods name receiver args present := names.methods name receiver args (inside _ present)

theorem renderArgs_spelled {args : List Expr} {rs : List Rendering}
    (each : ∀ e ∈ args, ∀ r, e.render m = some r → Spelled P r.tokens)
    (rendered : Expr.renderArgs m args = some rs) : ∀ r ∈ rs, Spelled P r.tokens := by
  induction args generalizing rs with
  | nil =>
    cases rendered
    exact fun r present => by cases present
  | cons e rest ih =>
    simp only [Expr.renderArgs,Option.bind_eq_bind,Option.bind_eq_some_iff,Option.pure_def,
      Option.some.injEq] at rendered
    obtain ⟨r,first,rs,later,rfl⟩ := rendered
    exact List.forall_mem_cons.mpr ⟨each e List.mem_cons_self r first,
      ih (fun e present => each e (List.mem_cons_of_mem _ present)) later⟩

theorem renderReceiver_spelled {receiver : Option Expr} {whole : Option Rendering}
    (each : ∀ e ∈ receiver.toList, ∀ r, e.render m = some r → Spelled P r.tokens)
    (rendered : Expr.renderReceiver m receiver = some whole) :
    ∀ r ∈ whole.toList, Spelled P r.tokens := by
  cases receiver with
  | none => cases rendered; simp
  | some e =>
    simp only [Expr.renderReceiver,Option.map_eq_some_iff] at rendered
    obtain ⟨r,first,rfl⟩ := rendered
    simpa using each e (by simp) r first

theorem Spelling.render (spelling : Spelling P) {e : Expr} (names : e.NamesSpelled P m)
    {r : Rendering} (rendered : e.render m = some r) : Spelled P r.tokens := by
  induction e using Expr.induct generalizing r with
  | binary op left right first second =>
    simp only [Expr.render,Option.bind_eq_bind,Option.bind_eq_some_iff] at rendered
    obtain ⟨a,renderedLeft,b,renderedRight,joined⟩ := rendered
    refine spelling.operator joined (first (names.part fun part present => ?_) renderedLeft)
      (second (names.part fun part present => ?_) renderedRight)
    · simp [Expr.parts,present]
    · simp [Expr.parts,present]
  | not operand ih =>
    simp only [Expr.render,Option.map_eq_some_iff] at rendered
    obtain ⟨a,inner,rfl⟩ := rendered
    have every := ih (names.part fun part present => by simp [Expr.parts,present]) inner
    simp [Rendering.negated,every,spelling.plain]
  | call method receiver args first second =>
    simp only [Expr.render,Option.bind_eq_bind,Option.bind_eq_some_iff] at rendered
    obtain ⟨whole,renderedReceiver,rs,renderedArgs,laid⟩ := rendered
    have inside : ∀ e ∈ receiver.toList ++ args, e.NamesSpelled P m := fun e present =>
      names.part fun part inner => mem_callParts.mpr (.inr ⟨e,present,inner⟩)
    have ofReceiver := renderReceiver_spelled (fun e present r => first e present
      (inside e (List.mem_append_left _ present))) renderedReceiver
    have ofArgs := renderArgs_spelled (fun e present r => second e present
      (inside e (List.mem_append_right _ present))) renderedArgs
    refine spelling.method laid (List.forall_mem_append.mpr ⟨ofReceiver,ofArgs⟩) ?_
    rintro name rfl
    exact names.methods name receiver args (by simp [Expr.parts])
  | constant value => exact spelling.captured rendered
  | convert target operand ih =>
    simp only [Expr.render,Option.bind_eq_bind,Option.bind_eq_some_iff] at rendered
    obtain ⟨a,inner,converted⟩ := rendered
    exact spelling.converted (ih (names.part fun part present => by simp [Expr.parts,present]) inner)
      converted
  | member receiver field =>
    by_cases record : receiver = .parameter
    · subst record
      simp only [Expr.render,Option.map_eq_some_iff] at rendered
      obtain ⟨column,found,rfl⟩ := rendered
      have known := names.columns column (List.mem_of_find?_eq_some found)
      simp [Rendering.plain,spelled,known]
    · rw [render_member record] at rendered
      split at rendered
      · simp only [Option.bind_eq_bind,Option.bind_eq_some_iff] at rendered
        obtain ⟨value,_,inner⟩ := rendered
        exact spelling.captured inner
      · cases rendered
  | parameter => cases rendered

end TypedRows
