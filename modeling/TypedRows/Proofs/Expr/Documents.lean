import TypedRows.Proofs.Expr.Causes
import TypedRows.Proofs.Expr.Evaluation
import TypedRows.Proofs.Value.Integers

namespace TypedRows

-- Chains of member accesses on a captured document. What they read is said of the document
-- itself: where a path of names leads in it, and which values stand for what is found there.

namespace Json

variable {j : Json}

inductive Leads : Json → List String → Json → Prop where
  | here (j : Json) : Leads j [] j
  | field {fields : List (String × Json)} {name : String} {next stop : Json} {path : List String} :
      Fields.get? name fields = some next → Leads next path stop →
      Leads (.object fields) (name :: path) stop

-- The value that a document without parts stands for. Whole numbers beyond 64 bits are doubles.
inductive Image : Json → Value → Prop where
  | null : Image .null .null
  | bool (b : Bool) : Image (.bool b) (.bool b)
  | int (n : Int64) : Image (.number (.integer n.toInt)) (.int n)
  | large {n : Int} : (∀ k : Int64, k.toInt ≠ n) →
      Image (.number (.integer n)) (.float (Double.ofInt n))
  | double (x : Double) : Image (.number (.double x)) (.float x)
  | string (s : String) : Image (.string s) (.text s)

inductive Images : Json → List Value → Prop where
  | single {j : Json} {v : Value} : j.Image v → Images j [v]
  | array {items : List Json} {vs : List Value} : List.Forall₂ Image items vs →
      Images (.array items) vs

def isSingle : Json → Bool
  | .array _ => false
  | .object _ => false
  | _ => true

def isFlat : Json → Bool
  | .array items => items.all isSingle
  | j => j.isSingle

theorem ofNumber_toInt (k : Int64) : Captured.ofNumber (.integer k.toInt) = .int k := by
  rw [Captured.ofNumber,if_pos (int64_range.mpr ⟨k,rfl⟩),Int64.ofInt_toInt]

theorem image_number {n : JsonNumber} {v : Value} :
    (Json.number n).Image v ↔ Captured.ofNumber n = v := by
  constructor
  · intro image
    cases image with
    | double => rfl
    | int k => exact ofNumber_toInt k
    | large outside =>
      exact if_neg fun inside => (int64_range.mp inside).elim outside
  · rintro rfl
    cases n with
    | double x => exact .double x
    | integer n =>
      by_cases inside : ∃ k : Int64, k.toInt = n
      · obtain ⟨k,rfl⟩ := inside
        rw [ofNumber_toInt]
        exact .int k
      · rw [Captured.ofNumber,if_neg (int64_range.not.mpr inside)]
        exact .large (not_exists.mp inside)

theorem image_iff {v : Value} : j.Image v ↔ Captured.ofJson j = .scalar v := by
  constructor
  · intro image
    cases j with
    | number n => exact congrArg Captured.scalar (image_number.mp image)
    | array items => cases image
    | object fields => cases image
    | _ => cases image; rfl
  · intro captured
    cases j with
    | null => cases captured; exact .null
    | bool b => cases captured; exact .bool b
    | number n => cases captured; exact image_number.mpr rfl
    | string s => cases captured; exact .string s
    | _ => cases captured

theorem exists_image : (∃ v, j.Image v) ↔ j.isSingle = true := by
  simp only [image_iff]
  cases j <;> simp [Captured.ofJson,isSingle]

theorem exists_images : (∃ vs, j.Images vs) ↔ j.isFlat = true := by
  cases j with
  | array items =>
    simp only [isFlat,List.all_eq_true,← exists_image,← exists_forall₂]
    constructor
    · rintro ⟨_,image | each⟩
      · cases image
      · exact ⟨_,each⟩
    · exact fun ⟨vs,each⟩ => ⟨vs,.array each⟩
  | _ =>
    rw [isFlat,← exists_image]
    · constructor
      · rintro ⟨_,⟨image⟩⟩
        exact ⟨_,image⟩
      · exact fun ⟨v,image⟩ => ⟨[v],.single image⟩
    · nofun

end Json

namespace Captured

variable {j : Json} {owner v : Captured} {name : String} {vs : List Value}

theorem ofItems_eq_map (items : List Json) : ofItems items = items.map ofJson := by
  induction items with
  | nil => rfl
  | cons item rest ih => rw [ofItems,ih,List.map_cons]

theorem ofFields_eq_map (fields : List (String × Json)) :
    ofFields fields = fields.map fun entry => (entry.1,ofJson entry.2) := by
  induction fields with
  | nil => rfl
  | cons entry rest ih => rw [ofFields,ih,List.map_cons]

theorem ofJson_bindable : (ofJson j).Bindable vs ↔ j.Images vs := by
  constructor
  · intro bindable
    generalize captured : ofJson j = value at bindable
    cases bindable with
    | scalar v => exact .single (Json.image_iff.mpr captured)
    | list vs =>
      cases j with
      | array items =>
        rw [ofJson,ofItems_eq_map,list.injEq,← List.forall₂_eq_eq_eq,List.forall₂_map_left_iff,
          List.forall₂_map_right_iff] at captured
        exact .array (captured.imp fun _ _ => Json.image_iff.mpr)
      | _ => cases captured
  · intro images
    cases images with
    | single image =>
      rw [Json.image_iff.mp image]
      exact .scalar _
    | @array items vs each =>
      have captured : items.map ofJson = vs.map scalar := by
        rw [← List.forall₂_eq_eq_eq,List.forall₂_map_left_iff,List.forall₂_map_right_iff]
        exact each.imp fun _ _ => Json.image_iff.mp
      rw [ofJson,ofItems_eq_map,captured]
      exact .list vs

theorem Bindable.count (bindable : v.Bindable vs) : v.placeholder.toList.count '?' = vs.length := by
  have clean : Unmarked (v.tokens vs) := unmarked_spelling.captured bindable.rendered
  rw [← bindable.flattened_tokens,clean.count,bindable.boundValues_tokens]

theorem readField_ofJson : (ofJson j).readField name = .ok v ↔
    ∃ fields next, j = .object fields ∧ Fields.get? name fields = some next ∧ v = ofJson next := by
  rw [readField_ok]
  constructor
  · rintro ⟨_,captured,found⟩
    cases j with
    | object fields =>
      cases captured
      rw [ofFields_eq_map,Fields.get?_map,Option.map_eq_some_iff] at found
      obtain ⟨next,found,rfl⟩ := found
      exact ⟨fields,next,rfl,found,rfl⟩
    | _ => cases captured
  · rintro ⟨fields,next,rfl,found,rfl⟩
    exact ⟨_,rfl,by rw [ofFields_eq_map,Fields.get?_map,found]; rfl⟩

def follow (owner : Captured) (path : List String) : Except Error Captured :=
  path.foldlM readField owner

theorem follow_concat (owner : Captured) (path : List String) (name : String) :
    owner.follow (path ++ [name]) = (do (← owner.follow path).readField name) := by
  rw [follow,List.foldlM_append]
  exact bind_congr fun _ => bind_pure _

theorem follow_ofJson {path : List String} : (ofJson j).follow path = .ok v ↔
    ∃ stop, j.Leads path stop ∧ v = ofJson stop := by
  induction path generalizing j with
  | nil =>
    constructor
    · intro read
      cases read
      exact ⟨j,.here j,rfl⟩
    · rintro ⟨_,⟨⟩,rfl⟩
      rfl
  | cons name path ih =>
    rw [follow,List.foldlM_cons,bind_ok]
    constructor
    · rintro ⟨_,read,later⟩
      obtain ⟨fields,next,rfl,found,rfl⟩ := readField_ofJson.mp read
      obtain ⟨stop,leads,rfl⟩ := ih.mp later
      exact ⟨stop,.field found leads,rfl⟩
    · rintro ⟨stop,leads,rfl⟩
      cases leads with
      | field found leads =>
        exact ⟨_,readField_ofJson.mpr ⟨_,_,rfl,found,rfl⟩,ih.mpr ⟨stop,leads,rfl⟩⟩

theorem follow_error {path : List String} {e : Error} (refused : owner.follow path = .error e) :
    ∃ said, e = .compile said := by
  induction path generalizing owner with
  | nil => cases refused
  | cons name path ih =>
    rw [follow,List.foldlM_cons] at refused
    cases read : owner.readField name with
    | error cause =>
      rw [read] at refused
      cases refused
      exact readField_error read
    | ok next =>
      rw [read] at refused
      exact ih refused

theorem bound_ok_iff {value : Captured} {pre after : List Value} {f : Fragment} :
    value.bound.runFrom pre = (.ok f,after) ↔
      ∃ vs, value.Bindable vs ∧ f = ⟨value.placeholder,some value⟩ ∧ after = pre ++ vs := by
  rw [bound_framed value pre,Prod.mk.injEq]
  constructor
  · rintro ⟨bound,rfl⟩
    obtain ⟨bindable,fragment⟩ := bound_ok (o := ⟨f,_⟩).mp (Prod.ext bound rfl)
    exact ⟨_,bindable,fragment,rfl⟩
  · rintro ⟨vs,bindable,fragment,rfl⟩
    rw [bound_ok (o := ⟨f,vs⟩).mpr ⟨bindable,fragment⟩]
    exact ⟨rfl,rfl⟩

end Captured

namespace Expr

variable {m : Mapping} {e : Expr}

def chain (e : Expr) (path : List String) : Expr := path.foldl .member e

theorem chain_concat (e : Expr) (path : List String) (name : String) :
    e.chain (path ++ [name]) = .member (e.chain path) name := by
  simp [chain]

theorem chain_ne_parameter (captured : e ≠ .parameter) (path : List String) :
    e.chain path ≠ .parameter := by
  rcases path.eq_nil_or_concat with rfl | ⟨path,name,rfl⟩
  · exact captured
  · simp [chain_concat]

-- The outermost member comes last in the path, so the receivers are read along it.
theorem evaluate_chain (captured : e ≠ .parameter) (path : List String) :
    (e.chain path).evaluate = (do (← e.evaluate).follow path) := by
  induction path generalizing e with
  | nil => exact (bind_pure e.evaluate).symm
  | cons name path ih =>
    have step := ih (e := .member e name) (by simp)
    rw [evaluate_member captured,bind_assoc] at step
    exact step

theorem compile_chain (value : Captured) (path : List String) (pre : List Value) :
    (((Expr.constant value).chain path).compile m).runFrom pre =
      match value.follow path with
      | .ok v => v.bound.runFrom pre
      | .error cause => (.error cause,pre) := by
  rcases path.eq_nil_or_concat with rfl | ⟨path,name,rfl⟩
  · rfl
  · have captured : (Expr.constant value).chain path ≠ .parameter := chain_ne_parameter (by simp) path
    have whole : ((Expr.constant value).chain path).evaluate = value.follow path :=
      evaluate_chain (by simp) path
    rw [List.concat_eq_append,chain_concat,compile_member captured,whole,Captured.follow_concat]
    simp only [Step.runFrom_bind,Step.runFrom_ofExcept]
    cases value.follow path with
    | error cause => rfl
    | ok owner => cases read : owner.readField name <;> simp [bind,Except.bind,read]

theorem compile_chain_error {value : Captured} {path : List String} {pre : List Value} {cause : Error}
    (refused : ((((Expr.constant value).chain path).compile m).runFrom pre).1 = .error cause) :
    ∃ said, cause = .compile said := by
  rw [compile_chain] at refused
  cases read : value.follow path with
  | error cause =>
    rw [read] at refused
    cases refused
    exact Captured.follow_error read
  | ok v =>
    rw [read] at refused
    exact Captured.bound_error refused

theorem chain_ok {j : Json} {path : List String} {pre after : List Value} {f : Fragment} :
    (((Expr.constant (.ofJson j)).chain path).compile m).runFrom pre = (.ok f,after) ↔
      ∃ stop vs, j.Leads path stop ∧ stop.Images vs ∧ after = pre ++ vs ∧
        f = ⟨(Captured.ofJson stop).placeholder,some (.ofJson stop)⟩ := by
  rw [compile_chain]
  constructor
  · intro ran
    cases read : (Captured.ofJson j).follow path with
    | error cause =>
      rw [read] at ran
      cases ran
    | ok value =>
      rw [read] at ran
      obtain ⟨stop,leads,rfl⟩ := Captured.follow_ofJson.mp read
      obtain ⟨vs,bindable,fragment,bound⟩ := Captured.bound_ok_iff.mp ran
      exact ⟨stop,vs,leads,Captured.ofJson_bindable.mp bindable,bound,fragment⟩
  · rintro ⟨stop,vs,leads,images,bound,fragment⟩
    rw [Captured.follow_ofJson.mpr ⟨stop,leads,rfl⟩]
    exact Captured.bound_ok_iff.mpr ⟨vs,Captured.ofJson_bindable.mpr images,fragment,bound⟩

theorem chain_succeeds {j : Json} {path : List String} {pre : List Value} :
    (∃ f after, (((Expr.constant (.ofJson j)).chain path).compile m).runFrom pre = (.ok f,after)) ↔
      ∃ stop, j.Leads path stop ∧ stop.isFlat = true := by
  simp only [← Json.exists_images,chain_ok]
  constructor
  · rintro ⟨_,_,stop,vs,leads,images,_⟩
    exact ⟨stop,leads,vs,images⟩
  · rintro ⟨stop,leads,vs,images⟩
    exact ⟨_,_,stop,vs,leads,images,rfl,rfl⟩

end Expr

-- A chain of members compiles exactly when its path leads, by way of objects alone, to a single
-- value or to an array of such, and binds what stands for that, each with a placeholder of its own.
-- In every other document it is refused for what the condition says.
theorem member_chain_reads (m : Mapping) (j : Json) (path : List String) (pre : List Value) :
    let chain := (Expr.constant (.ofJson j)).chain path
    ((∃ f after, (chain.compile m).runFrom pre = (.ok f,after)) ↔
      ∃ stop, j.Leads path stop ∧ stop.isFlat = true) ∧
    (∀ f after, (chain.compile m).runFrom pre = (.ok f,after) ↔
      ∃ stop vs, j.Leads path stop ∧ stop.Images vs ∧ after = pre ++ vs ∧
        f = ⟨(Captured.ofJson stop).placeholder,some (.ofJson stop)⟩ ∧
        f.text.toList.count '?' = vs.length) ∧
    ((¬ ∃ stop, j.Leads path stop ∧ stop.isFlat = true) →
      ∃ cause after, (chain.compile m).runFrom pre = (.error (.compile cause),after)) := by
  intro chain
  refine ⟨Expr.chain_succeeds,fun f after => ?_,fun astray => ?_⟩
  · rw [Expr.chain_ok]
    constructor
    · rintro ⟨stop,vs,leads,images,bound,rfl⟩
      exact ⟨stop,vs,leads,images,bound,rfl,(Captured.ofJson_bindable.mpr images).count⟩
    · rintro ⟨stop,vs,leads,images,bound,fragment,_⟩
      exact ⟨stop,vs,leads,images,bound,fragment⟩
  · rcases ran : (chain.compile m).runFrom pre with ⟨cause | f,after⟩
    · obtain ⟨said,rfl⟩ := Expr.compile_chain_error (congrArg Prod.fst ran)
      exact ⟨said,after,rfl⟩
    · exact absurd (Expr.chain_succeeds.mp ⟨f,after,ran⟩) astray

def filterDocument : Json :=
  .object [("filter",.object [("ids",.array [.number (.integer 5),.null,
    .number (.integer 18446744073709551615)]),("name",.string "a?")])]

theorem member_chain_reads_filterDocument :
    let ids := (Expr.constant (.ofJson filterDocument)).chain ["filter","ids"]
    (∃ f, (ids.compile person).runFrom [.bool true] =
      (.ok f,[.bool true,.int 5,.null,.float (Double.ofInt 18446744073709551615)]) ∧
      f.text = "(?,?,?)") ∧
    ∃ cause after, ((ids.chain ["length"]).compile person).runFrom [] =
      (.error (.compile cause),after) := by
  constructor
  · obtain ⟨_,compiled,_⟩ := member_chain_reads person filterDocument ["filter","ids"] [.bool true]
    have large : ∀ k : Int64, k.toInt ≠ 18446744073709551615 := by
      intro k
      have bound := Int64.toInt_le k
      rw [Int64.toInt_maxValue] at bound
      omega
    exact ⟨_,(compiled _ _).mpr ⟨_,_,.field rfl (.field rfl (.here _)),
      .array (.cons (.int 5) (.cons .null (.cons (.large large) .nil))),rfl,rfl,rfl⟩,rfl⟩
  · obtain ⟨_,_,refused⟩ := member_chain_reads person filterDocument ["filter","ids","length"] []
    refine refused ?_
    rintro ⟨stop,leads,_⟩
    cases leads with
    | field found leads =>
      cases found
      cases leads with
      | field found leads =>
        cases found
        cases leads

end TypedRows
