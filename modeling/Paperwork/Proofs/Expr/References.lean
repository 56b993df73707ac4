import Paperwork.Expr.Eval
import Paperwork.Proofs.Outcome

/-!
# What an expression reads

The value of an expression depends on nothing but the fields it refers to (`eval_congr`), and it
is undefined only for want of one of them (`of_eval_undefined`).
-/

namespace Paperwork.Expr

/-- Induction over expressions, with the operands of a concatenation as a list. -/
@[elab_as_elim, induction_eliminator]
theorem induction {motive : Expr → Prop}
    (literal : ∀ value, motive (literal value))
    (field : ∀ name, motive (field name))
    (concat : ∀ args, (∀ e ∈ args, motive e) → motive (concat args))
    (cond : ∀ c t e, motive c → motive t → motive e → motive (cond c t e))
    (split : ∀ arg delimiter, motive arg → motive (split arg delimiter))
    (index : ∀ list position, motive list → motive (index list position))
    (eq : ∀ left right, motive left → motive right → motive (eq left right))
    (upper : ∀ arg, motive arg → motive (upper arg))
    (lower : ∀ arg, motive arg → motive (lower arg))
    (replace : ∀ subject pattern replacement, motive subject → motive pattern →
      motive replacement → motive (replace subject pattern replacement))
    (e : Expr) : motive e := by
  refine Expr.rec (motive_1 := motive) (motive_2 := fun args => ∀ e ∈ args, motive e)
    literal field concat cond split index eq upper lower replace ?_ ?_ e
  · intro e he
    cases he
  · intro head tail hhead htail e he
    rcases List.mem_cons.mp he with rfl | he
    · exact hhead
    · exact htail e he

/-! ## References -/

theorem mem_referencesOfAll {n : String} {es : List Expr} :
    n ∈ referencesOfAll es ↔ ∃ e ∈ es, n ∈ e.references := by
  induction es with
  | nil => simp [referencesOfAll]
  | cons e es ih =>
    rw [referencesOfAll, List.mem_append, ih]
    simp

/-! ## Values -/

variable {a b fields : Fields}

theorem evalConcat_congr {es : List Expr} (h : ∀ e ∈ es, eval a e = eval b e) :
    evalConcat a es = evalConcat b es := by
  induction es with
  | nil => rfl
  | cons e es ih =>
    rw [evalConcat, evalConcat, h e List.mem_cons_self,
      ih fun e he => h e (List.mem_cons_of_mem _ he)]

/-- Fields that agree on the references of an expression give it the same outcome. -/
theorem eval_congr {e : Expr} (h : ∀ n ∈ e.references, a.get? n = b.get? n) :
    eval a e = eval b e := by
  induction e with
  | literal value => rfl
  | field name =>
    rw [eval, eval, h name (by simp [references])]
  | concat args ih =>
    have hargs : ∀ e ∈ args, eval a e = eval b e := fun e he =>
      ih e he fun n hn => h n (by
        rw [references, mem_referencesOfAll]
        exact ⟨e, he, hn⟩)
    rw [eval, eval, evalConcat_congr hargs]
  | cond c t e ihc iht ihe =>
    simp only [references, List.mem_append] at h
    rw [eval, eval, ihc fun n hn => h n (.inl (.inl hn)), iht fun n hn => h n (.inl (.inr hn)),
      ihe fun n hn => h n (.inr hn)]
  | split arg delimiter ih => rw [eval, eval, ih h]
  | index list position ih => rw [eval, eval, ih h]
  | eq left right ihl ihr =>
    simp only [references, List.mem_append] at h
    rw [eval, eval, ihl fun n hn => h n (.inl hn), ihr fun n hn => h n (.inr hn)]
  | upper arg ih => rw [eval, eval, ih h]
  | lower arg ih => rw [eval, eval, ih h]
  | replace subject pattern replacement ihs ihp ihr =>
    simp only [references, List.mem_append] at h
    rw [eval, eval, ihs fun n hn => h n (.inl (.inl hn)), ihp fun n hn => h n (.inl (.inr hn)),
      ihr fun n hn => h n (.inr hn)]

/-! ## Undefined fields -/

theorem expectText_ne_undefined {operation n : String} {v : Value} :
    expectText operation v ≠ .error (.undefinedField n) := by
  cases v <;> simp [expectText]

theorem itemAt_ne_undefined {position : UInt64} {n : String} {v : Value} :
    itemAt position v ≠ .error (.undefinedField n) := by
  unfold itemAt
  split
  · split <;> simp
  · simp

theorem replaceIn_ne_undefined {subject pattern replacement n : String} :
    replaceIn subject pattern replacement ≠ .error (.undefinedField n) := by
  unfold replaceIn
  split <;> simp

/-- An operation on a text is undefined because its operand is, or by what follows. -/
theorem of_operand_undefined {α : Type} {operand : Except EvalError Value} {operation n : String}
    {next : String → Except EvalError α}
    (h : (operand >>= fun v => expectText operation v >>= next) = .error (.undefinedField n)) :
    operand = .error (.undefinedField n) ∨ ∃ s, next s = .error (.undefinedField n) := by
  rw [bind_eq_error_iff] at h
  rcases h with h | ⟨v, -, h⟩
  · exact .inl h
  · rw [bind_eq_error_iff] at h
    rcases h with h | ⟨s, -, h⟩
    · exact absurd h expectText_ne_undefined
    · exact .inr ⟨s, h⟩

theorem of_evalConcat_undefined {es : List Expr} {n : String}
    (h : evalConcat fields es = .error (.undefinedField n)) :
    ∃ e ∈ es, eval fields e = .error (.undefinedField n) := by
  induction es with
  | nil => simp [evalConcat] at h
  | cons e es ih =>
    rw [evalConcat, bind_eq_error_iff] at h
    rcases h with h | ⟨v, -, h⟩
    · exact ⟨e, List.mem_cons_self, h⟩
    · rw [bind_eq_error_iff] at h
      rcases h with h | ⟨s, -, h⟩
      · obtain ⟨e', he', h'⟩ := ih h
        exact ⟨e', List.mem_cons_of_mem _ he', h'⟩
      · cases h

/-- An expression is undefined only for a field that it refers to and that has no value. -/
theorem of_eval_undefined {e : Expr} {n : String}
    (h : eval fields e = .error (.undefinedField n)) :
    n ∈ e.references ∧ fields.get? n = none := by
  induction e with
  | literal value => simp [eval] at h
  | field name =>
    rw [eval] at h
    split at h
    · cases h
    · cases h
      rename_i hnone
      exact ⟨by simp [references], hnone⟩
  | concat args ih =>
    rw [eval, bind_eq_error_iff] at h
    rcases h with h | ⟨s, -, h⟩
    · obtain ⟨e, he, h'⟩ := of_evalConcat_undefined h
      obtain ⟨hmem, hnone⟩ := ih e he h'
      rw [references, mem_referencesOfAll]
      exact ⟨⟨e, he, hmem⟩, hnone⟩
    · cases h
  | cond c t e ihc iht ihe =>
    simp only [references, List.mem_append]
    rw [eval, bind_eq_error_iff] at h
    rcases h with h | ⟨v, -, h⟩
    · exact (ihc h).imp_left fun hmem => .inl (.inl hmem)
    · split at h
      · exact (iht h).imp_left fun hmem => .inl (.inr hmem)
      · exact (ihe h).imp_left .inr
  | split arg delimiter ih =>
    rw [eval] at h
    rcases of_operand_undefined h with h | ⟨s, h⟩
    · exact ih h
    · cases h
  | index list position ih =>
    rw [eval, bind_eq_error_iff] at h
    rcases h with h | ⟨v, -, h⟩
    · exact ih h
    · exact absurd h itemAt_ne_undefined
  | eq left right ihl ihr =>
    simp only [references, List.mem_append]
    simp only [eval, bind_eq_error_iff] at h
    rcases h with h | ⟨l, -, h | ⟨r, -, h⟩⟩
    · exact (ihl h).imp_left .inl
    · exact (ihr h).imp_left .inr
    · cases h
  | upper arg ih =>
    rw [eval] at h
    rcases of_operand_undefined h with h | ⟨s, h⟩
    · exact ih h
    · cases h
  | lower arg ih =>
    rw [eval] at h
    rcases of_operand_undefined h with h | ⟨s, h⟩
    · exact ih h
    · cases h
  | replace subject pattern replacement ihs ihp ihr =>
    simp only [references, List.mem_append]
    rw [eval] at h
    rcases of_operand_undefined h with h | ⟨s, h⟩
    · exact (ihs h).imp_left fun hmem => .inl (.inl hmem)
    rcases of_operand_undefined h with h | ⟨p, h⟩
    · exact (ihp h).imp_left fun hmem => .inl (.inr hmem)
    rcases of_operand_undefined h with h | ⟨r, h⟩
    · exact (ihr h).imp_left .inr
    · exact absurd h replaceIn_ne_undefined

/-! ## References and outcomes -/

/--
Fields that agree on the references of an expression, be it by the same value or by none, give it
the same value or the same failure. A field that the expression fails to find is one of its
references and has no value, so no field is missed when all references have values.
-/
theorem eval_depends_on_references (e : Expr) :
    (∀ a b : Fields, (∀ n ∈ e.references, a.get? n = b.get? n) → e.eval a = e.eval b) ∧
    (∀ fields n, e.eval fields = .error (.undefinedField n) →
      n ∈ e.references ∧ fields.get? n = none) ∧
    ∀ fields : Fields, (∀ n ∈ e.references, (fields.get? n).isSome) →
      ∀ n, e.eval fields ≠ .error (.undefinedField n) := by
  refine ⟨fun a b h => eval_congr h, fun fields n h => of_eval_undefined h, ?_⟩
  intro fields hpresent n h
  obtain ⟨hmem, hnone⟩ := of_eval_undefined h
  have hsome := hpresent n hmem
  rw [hnone] at hsome
  cases hsome

/-- The tenants by name, the spouse only of a tenant who is married. -/
def tenantNames : Expr :=
  .concat [.field "tenant", .cond (.field "married")
    (.concat [.literal (.text " and "), .field "spouse"]) (.literal (.text " alone"))]

/-- A tenant who is not married. -/
def singleFields : Fields := Dict.ofList [("married", .flag false), ("tenant", .text "Ada")]

/-- A tenant whose spouse has no name yet. -/
def marriedFields : Fields := Dict.ofList [("married", .flag true), ("tenant", .text "Ada")]

/-- A date makes no difference to the names, and the name of a spouse is missed by nobody else. -/
theorem tenantNames_depends_on_references :
    (∀ n ∈ tenantNames.references,
      singleFields.get? n = (singleFields.insert "date" (.text "today")).get? n) ∧
    tenantNames.eval (singleFields.insert "date" (.text "today")) = .ok (.text "Ada alone") ∧
    tenantNames.eval marriedFields = .error (.undefinedField "spouse") ∧
    ("spouse" ∈ tenantNames.references ∧ marriedFields.get? "spouse" = none) ∧
    ∀ n, tenantNames.eval (marriedFields.insert "spouse" (.text "Grace")) ≠
      .error (.undefinedField n) := by
  obtain ⟨hcongr, hundefined, hpresent⟩ := eval_depends_on_references tenantNames
  have hagree : ∀ n ∈ tenantNames.references,
      singleFields.get? n = (singleFields.insert "date" (.text "today")).get? n := by decide
  have hsingle : tenantNames.eval singleFields = .ok (.text "Ada alone") := rfl
  have hmarried : tenantNames.eval marriedFields = .error (.undefinedField "spouse") := rfl
  exact ⟨hagree, (hcongr _ _ hagree).symm.trans hsingle, hmarried, hundefined _ _ hmarried,
    hpresent _ (by decide)⟩

end Paperwork.Expr
