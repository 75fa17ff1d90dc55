import TypedRows.Proofs.Expr.Agreement

namespace TypedRows

-- The pieces of a call against the tokens of its operands. A call lays its operands out in an
-- order of its own, and its arguments follow the pieces.

variable {m : Mapping}

inductive Matched (m : Mapping) : List Expr → List Rendering → List Operand → Prop where
  | nil : Matched m [] [] []
  | cons {e : Expr} {r : Rendering} {o : Operand} {es : List Expr} {rs : List Rendering}
      {os : List Operand} : Agrees m e r o → Matched m es rs os →
      Matched m (e :: es) (r :: rs) (o :: os)

theorem Matched.append {es es' : List Expr} {rs rs' : List Rendering} {os os' : List Operand}
    (first : Matched m es rs os) (second : Matched m es' rs' os') :
    Matched m (es ++ es') (rs ++ rs') (os ++ os') := by
  induction first with
  | nil => exact second
  | cons agrees _ ih => exact .cons agrees ih

-- Pieces with the conditions whose operands they are, and their tokens in the same order.
inductive Laid (m : Mapping) : List Expr → List Piece → List Token → Prop where
  | nil : Laid m [] [] []
  | text (s : String) {es : List Expr} {ps : List Piece} {ts : List Token} : Laid m es ps ts →
      Laid m es (.text s :: ps) (.literal s :: ts)
  | operand {e : Expr} {r : Rendering} {o : Operand} {es : List Expr} {ps : List Piece}
      {ts : List Token} : Agrees m e r o → Laid m es ps ts →
      Laid m (e :: es) (.operand o :: ps) (r.tokens ++ ts)

namespace Laid

variable {es : List Expr} {ps : List Piece} {ts : List Token}

theorem joined (laid : Laid m es ps ts) : flattened ts = Piece.joined ps := by
  induction laid with
  | nil => simp [Piece.joined]
  | text s _ ih => simpa [Piece.joined,Piece.string,String.join_cons] using ih
  | operand agrees _ ih =>
    rw [flattened_append,agrees.text,ih]
    simp [Piece.joined,Piece.string,String.join_cons]

theorem delayed (laid : Laid m es ps ts) : Delayed (Piece.allArgs ps) (boundValues ts) := by
  induction laid with
  | nil => exact .refl []
  | text s _ ih => exact ih
  | operand agrees _ ih =>
    rw [boundValues_append]
    exact agrees.delayed.append ih

theorem order (laid : Laid m es ps ts) :
    Piece.allArgs ps = boundValues ts ↔ ∀ e ∈ es, e.KeepsOrder m := by
  induction laid with
  | nil => simp [Piece.allArgs]
  | text s _ ih => exact ih
  | operand agrees _ ih =>
    rw [boundValues_append,List.forall_mem_cons,← agrees.order,← ih]
    exact agrees.delayed.append_eq_iff

theorem append {es' : List Expr} {ps' : List Piece} {ts' : List Token} (first : Laid m es ps ts)
    (second : Laid m es' ps' ts') : Laid m (es ++ es') (ps ++ ps') (ts ++ ts') := by
  induction first with
  | nil => exact second
  | text s _ ih => exact .text s ih
  | operand agrees _ ih =>
    rw [List.append_assoc]
    exact .operand agrees ih

theorem separated {rs : List Rendering} {os : List Operand} (matched : Matched m es rs os) :
    Laid m es (separated os) ((rs.map Rendering.tokens).intersperse (spelled ",")).flatten := by
  induction matched with
  | nil => exact .nil
  | cons agrees rest ih =>
    cases rest with
    | nil => exact .operand agrees .nil
    | cons agrees' rest =>
      rw [List.map_cons,List.map_cons,List.intersperse_cons_cons]
      exact .operand agrees (.text "," ih)

end Laid

theorem Agrees.called {method : Method} {receiver : Option Expr} {args : List Expr}
    {es : List Expr} {ps : List Piece} {chunks : List (List Token)}
    (laid : Laid m es ps chunks.flatten) (complete : ∀ e, e ∈ es ↔ e ∈ receiver.toList ++ args)
    (long : 2 ≤ (Piece.joined ps).toList.length) :
    Agrees m (.call method receiver args) (.plain chunks)
      ⟨.plain (Piece.joined ps),Piece.allArgs ps⟩ := by
  refine unvalued laid.joined long laid.delayed (laid.order.trans ?_)
  rw [keepsOrder_call]
  simp only [complete]

variable {receiver : Option Expr} {args : List Expr} {whole : Option Rendering}
  {rest : List Rendering} {os : List Operand}

theorem Matched.none (matched : Matched m receiver.toList whole.toList []) :
    receiver = none ∧ whole = none := by
  cases receiver <;> cases whole <;> first | exact ⟨rfl,rfl⟩ | cases matched

theorem Matched.some {o : Operand} (matched : Matched m receiver.toList whole.toList [o]) :
    ∃ e r, receiver = some e ∧ whole = some r ∧ Agrees m e r o := by
  cases receiver with
  | none => cases whole <;> cases matched
  | some e =>
    cases whole with
    | none => cases matched
    | some r =>
      cases matched with
      | cons agrees _ => exact ⟨e,r,rfl,rfl,agrees⟩

theorem Matched.one {o : Operand} (matched : Matched m args rest [o]) :
    ∃ e r, args = [e] ∧ rest = [r] ∧ Agrees m e r o := by
  cases matched with
  | cons agrees none => cases none; exact ⟨_,_,rfl,rfl,agrees⟩

theorem Matched.two {o o' : Operand} (matched : Matched m args rest [o,o']) :
    ∃ e e' r r', args = [e,e'] ∧ rest = [r,r'] ∧ Agrees m e r o ∧ Agrees m e' r' o' := by
  cases matched with
  | cons agrees one =>
    obtain ⟨e',r',rfl,rfl,agrees'⟩ := one.one
    exact ⟨_,e',_,r',rfl,rfl,agrees,agrees'⟩

theorem Agrees.between {method : Method} {left right : Expr} {a b : Rendering} {p q : Operand}
    (agreesLeft : Agrees m left a p) (agreesRight : Agrees m right b q) (s t u : String)
    (complete : ∀ e, e ∈ [left,right] ↔ e ∈ receiver.toList ++ args)
    (long : 2 ≤ (s ++ u).toList.length) :
    Agrees m (.call method receiver args)
      (.plain [spelled s,a.tokens,spelled t,b.tokens,spelled u])
      ⟨.plain (Piece.joined [.text s,.operand p,.text t,.operand q,.text u]),
        Piece.allArgs [.text s,.operand p,.text t,.operand q,.text u]⟩ := by
  refine .called (.text s (.operand agreesLeft (.text t (.operand agreesRight (.text u .nil)))))
    complete ?_
  simp [Piece.joined,Piece.string] at long ⊢
  omega

theorem Agrees.within {method : Method} {e : Expr} {r : Rendering} {o : Operand}
    (agrees : Agrees m e r o) (s u : String) (complete : ∀ x, x ∈ [e] ↔ x ∈ receiver.toList ++ args)
    (long : 2 ≤ (s ++ u).toList.length) :
    Agrees m (.call method receiver args) (.plain [spelled s,r.tokens,spelled u])
      ⟨.plain (Piece.joined [.text s,.operand o,.text u]),
        Piece.allArgs [.text s,.operand o,.text u]⟩ := by
  refine .called (.text s (.operand agrees (.text u .nil))) complete ?_
  simp [Piece.joined,Piece.string] at long ⊢
  omega

-- A test that minds case knows the length that it compares, or it fails.

def Method.measures : Method → Bool
  | .startsWith collation => !collation.ignoresCase
  | .endsWith collation => !collation.ignoresCase
  | _ => false

theorem startTest_ok {collation : Collation} {subject start : Operand} {ps : List Piece}
    (laid : startTest collation subject start = .ok ps) :
    (collation.ignoresCase = true ∧
      ps = [.text "(",.operand subject,.text " like (",.operand start,.text " || '%'))"]) ∨
    (¬ collation.ignoresCase = true ∧ ∃ length, start.lengthText collation = .ok length ∧
      ps = [.text "(substr(",.operand subject,.text (", 1, " ++ length ++ ") = "),.operand start,
        .text ")"]) := by
  unfold startTest at laid
  split at laid
  · rename_i ignores
    cases laid
    exact .inl ⟨ignores,rfl⟩
  · rename_i ignores
    cases measured : start.lengthText collation with
    | error cause => rw [measured] at laid; cases laid
    | ok length =>
      rw [measured] at laid
      cases laid
      exact .inr ⟨ignores,length,rfl,rfl⟩

theorem endTest_ok {collation : Collation} {subject ending : Operand} {ps : List Piece}
    (laid : endTest collation subject ending = .ok ps) :
    (collation.ignoresCase = true ∧
      ps = [.text "(",.operand subject,.text " like ('%' || ",.operand ending,.text "))"]) ∨
    (¬ collation.ignoresCase = true ∧ ∃ length, ending.lengthText collation = .ok length ∧
      ps = [.text "(substr(",.operand subject,.text (", -" ++ length ++ ", " ++ length ++ ") = "),
        .operand ending,.text ")"]) := by
  unfold endTest at laid
  split at laid
  · rename_i ignores
    cases laid
    exact .inl ⟨ignores,rfl⟩
  · rename_i ignores
    cases measured : ending.lengthText collation with
    | error cause => rw [measured] at laid; cases laid
    | ok length =>
      rw [measured] at laid
      cases laid
      exact .inr ⟨ignores,length,rfl,rfl⟩

theorem Agrees.method {method : Method} {o : Option Operand} {ps : List Piece}
    (first : Matched m receiver.toList whole.toList o.toList) (second : Matched m args rest os)
    (laid : method.pieces o os = .ok ps) :
    ∃ c, method.rendered whole rest = some c ∧ Agrees m (.call method receiver args) c
      ⟨.plain (Piece.joined ps),Piece.allArgs ps⟩ := by
  unfold Method.pieces at laid
  split at laid
  · obtain ⟨rfl,rfl⟩ := first.none
    obtain ⟨e,e',r,r',rfl,rfl,subject,pattern⟩ := second.two
    cases laid
    exact ⟨_,rfl,.between subject pattern _ _ _ (by simp) (by decide)⟩
  · obtain ⟨e,r,rfl,rfl,subject⟩ := first.some
    obtain ⟨e',r',rfl,rfl,pattern⟩ := second.one
    cases laid
    exact ⟨_,rfl,.between subject pattern _ _ _ (by simp) (by decide)⟩
  · obtain ⟨rfl,rfl⟩ := first.none
    obtain ⟨e,e',r,r',rfl,rfl,collection,item⟩ := second.two
    cases laid
    exact ⟨_,rfl,.between item collection _ _ _ (by simp [or_comm]) (by decide)⟩
  · obtain ⟨e,r,rfl,rfl,subject⟩ := first.some
    obtain ⟨e',r',rfl,rfl,part⟩ := second.one
    rw [← subject.isList] at laid
    cases list : r.isList with
    | true =>
      rw [if_pos list] at laid
      cases laid
      exact ⟨_,if_pos list,.between part subject _ _ _ (by simp [or_comm]) (by decide)⟩
    | false =>
      rw [list] at laid
      cases laid
      exact ⟨_,if_neg (by simp [list]),.between subject part _ _ _ (by simp) (by decide)⟩
  · obtain ⟨e,r,rfl,rfl,subject⟩ := first.some
    obtain ⟨e',r',rfl,rfl,start⟩ := second.one
    rcases startTest_ok laid with ⟨ignores,rfl⟩ | ⟨ignores,length,measured,rfl⟩
    · exact ⟨_,if_pos ignores,.between subject start _ _ _ (by simp) (by decide)⟩
    · exact ⟨_,(if_neg ignores).trans (by rw [start.length measured]; rfl),
        .between subject start _ _ _ (by simp) (by decide)⟩
  · obtain ⟨e,r,rfl,rfl,subject⟩ := first.some
    obtain ⟨e',r',rfl,rfl,ending⟩ := second.one
    rcases endTest_ok laid with ⟨ignores,rfl⟩ | ⟨ignores,length,measured,rfl⟩
    · exact ⟨_,if_pos ignores,.between subject ending _ _ _ (by simp) (by decide)⟩
    · exact ⟨_,(if_neg ignores).trans (by rw [ending.length measured]; rfl),
        .between subject ending _ _ _ (by simp) (by decide)⟩
  · obtain ⟨e,r,rfl,rfl,left⟩ := first.some
    obtain ⟨e',r',rfl,rfl,right⟩ := second.one
    cases laid
    exact ⟨_,rfl,.between left right _ _ _ (by simp) (by decide)⟩
  · obtain ⟨e,r,rfl,rfl,subject⟩ := first.some
    cases second
    cases laid
    exact ⟨_,rfl,.within subject _ _ (by simp) (by decide)⟩
  · obtain ⟨e,r,rfl,rfl,subject⟩ := first.some
    cases second
    cases laid
    exact ⟨_,rfl,.within subject _ _ (by simp) (by decide)⟩
  · obtain ⟨e,r,rfl,rfl,subject⟩ := first.some
    obtain ⟨e',e'',r',r'',rfl,rfl,old,new⟩ := second.two
    cases laid
    exact ⟨_,rfl,.called (.text _ (.operand subject (.text _ (.operand old (.text _
      (.operand new (.text _ .nil))))))) (by simp) (by simp [Piece.joined,Piece.string])⟩
  · cases laid
    refine ⟨_,rfl,.called ?_ (fun e => Iff.refl (e ∈ receiver.toList ++ args)) ?_⟩
    · have operands := (Laid.separated (first.append second)).append (.text ")" .nil)
      simpa [spelled] using Laid.text _ operands
    · simp [Piece.joined,Piece.string,String.join_cons]
      omega
  · cases laid

end TypedRows
