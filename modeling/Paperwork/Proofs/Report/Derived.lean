import Paperwork.Proofs.Expr.References
import Paperwork.Proofs.Report.Inputs
import Paperwork.Proofs.Template.Scope

/-!
# Derived values

Derived values are computed in one pass over the values before them. As they read nothing but what
stands there already, every one of them still has its value at the end of the pass
(`computeDerived_eq_ok_iff`), and none of them is undefined (`computeDerived_ne_undefined`).
-/

namespace Paperwork

open Template

/-! ## One pass -/

variable {fields out : Fields} {x : DerivedField} {xs : List DerivedField} {defect : Defect}

theorem computeDerived_cons_eq_ok_iff :
    computeDerived fields (x :: xs) = .ok out ↔
      ∃ v, x.expression.eval fields = .ok v ∧
        computeDerived (fields.insert x.name v) xs = .ok out := by
  rw [computeDerived]
  cases x.expression.eval fields <;> simp

theorem computeDerived_cons_eq_error_iff :
    computeDerived fields (x :: xs) = .error defect ↔
      (∃ cause, x.expression.eval fields = .error cause ∧ defect = .derived x.name cause) ∨
        ∃ v, x.expression.eval fields = .ok v ∧
          computeDerived (fields.insert x.name v) xs = .error defect := by
  rw [computeDerived]
  cases x.expression.eval fields <;> simp [eq_comm]

/-- The pass changes nothing but the derived values. -/
theorem get?_of_computeDerived (h : computeDerived fields xs = .ok out) {n : String}
    (hn : n ∉ xs.map (·.name)) : out.get? n = fields.get? n := by
  induction xs generalizing fields with
  | nil =>
    cases h
    rfl
  | cons x xs ih =>
    obtain ⟨v, -, hrest⟩ := computeDerived_cons_eq_ok_iff.mp h
    rw [List.map_cons, List.mem_cons, not_or] at hn
    rw [ih hrest hn.2, Dict.get?_insert, if_neg hn.1]

/-- The pass leaves a value under every name that had one and under those of derived values. -/
theorem isSome_of_computeDerived (h : computeDerived fields xs = .ok out) {n : String}
    (hn : (fields.get? n).isSome ∨ n ∈ xs.map (·.name)) : (out.get? n).isSome := by
  induction xs generalizing fields with
  | nil =>
    cases h
    exact hn.resolve_right (by simp)
  | cons x xs ih =>
    obtain ⟨v, -, hrest⟩ := computeDerived_cons_eq_ok_iff.mp h
    refine ih hrest ?_
    rw [Dict.get?_insert, List.map_cons, List.mem_cons] at *
    by_cases heq : n = x.name
    · exact .inl (by simp [heq])
    · rw [if_neg heq]
      exact hn.imp_right (Or.resolve_left · heq)

/--
Values that hold every derived value, each being that of its expression over all of them, and that
are the given ones everywhere else.
-/
structure Completes (fields : Fields) (xs : List DerivedField) (out : Fields) : Prop where
  kept : ∀ n, n ∉ xs.map (·.name) → out.get? n = fields.get? n
  holds : ∀ x ∈ xs, ∃ v, out.get? x.name = some v ∧ x.expression.eval out = .ok v

theorem Completes.eval_eq {known : List String} (h : Completes fields xs out)
    (hnew : AreNew known (xs.map (·.name))) {e : Expr} (hreads : ReadsOnly known e) :
    e.eval out = e.eval fields :=
  Expr.eval_congr fun n hn => h.kept n fun hmem => hnew.2 n hmem (hreads n hn)

theorem completes_of_computeDerived {known : List String}
    (h : computeDerived fields xs = .ok out) (hscope : InScope known xs)
    (hnew : AreNew known (xs.map (·.name))) : Completes fields xs out := by
  refine ⟨fun n => get?_of_computeDerived h, ?_⟩
  induction xs generalizing fields known with
  | nil => simp
  | cons x xs ih =>
    have hkept : ∀ n ∈ known, out.get? n = fields.get? n := fun n hn =>
      get?_of_computeDerived h fun hmem => hnew.2 n hmem hn
    obtain ⟨v, hv, hrest⟩ := computeDerived_cons_eq_ok_iff.mp h
    obtain ⟨hreads, hscope⟩ := inScope_cons.mp hscope
    obtain ⟨-, hnew⟩ := areNew_cons.mp hnew
    refine List.forall_mem_cons.mpr ⟨⟨v, ?_, ?_⟩, ih hrest hscope hnew⟩
    · rw [get?_of_computeDerived hrest fun hmem => hnew.2 _ hmem (by simp), Dict.get?_insert,
        if_pos rfl]
    · rw [Expr.eval_congr fun n hn => hkept n (hreads n hn)]
      exact hv

theorem computeDerived_of_completes {known : List String} (h : Completes fields xs out)
    (hscope : InScope known xs) (hnew : AreNew known (xs.map (·.name))) :
    computeDerived fields xs = .ok out := by
  induction xs generalizing fields known with
  | nil => rw [computeDerived, Dict.ext_get? fun n => h.kept n (by simp)]
  | cons x xs ih =>
    obtain ⟨⟨v, hget, hv⟩, hholds⟩ := List.forall_mem_cons.mp h.holds
    obtain ⟨hreads, hscope⟩ := inScope_cons.mp hscope
    rw [h.eval_eq hnew hreads] at hv
    obtain ⟨-, hnew⟩ := areNew_cons.mp hnew
    refine computeDerived_cons_eq_ok_iff.mpr ⟨v, hv, ih ⟨fun n hn => ?_, hholds⟩ hscope hnew⟩
    rw [Dict.get?_insert]
    by_cases heq : n = x.name
    · rw [if_pos heq, heq, hget]
    · rw [if_neg heq]
      exact h.kept n (by simp [heq] at hn ⊢; exact hn)

/-- The pass finds the one completion that there is. -/
theorem computeDerived_eq_ok_iff {known : List String} (hscope : InScope known xs)
    (hnew : AreNew known (xs.map (·.name))) :
    computeDerived fields xs = .ok out ↔ Completes fields xs out :=
  ⟨fun h => completes_of_computeDerived h hscope hnew,
    fun h => computeDerived_of_completes h hscope hnew⟩

/-- The pass fails with the first expression that fails over the values before it. -/
theorem computeDerived_eq_error_iff :
    computeDerived fields xs = .error defect ↔
      ∃ before x after values cause, xs = before ++ x :: after ∧
        computeDerived fields before = .ok values ∧ x.expression.eval values = .error cause ∧
        defect = .derived x.name cause := by
  induction xs generalizing fields with
  | nil => simp [computeDerived]
  | cons x xs ih =>
    rw [computeDerived_cons_eq_error_iff]
    constructor
    · rintro (⟨cause, hcause, rfl⟩ | ⟨v, hv, hrest⟩)
      · exact ⟨[], x, xs, fields, cause, rfl, rfl, hcause, rfl⟩
      · obtain ⟨before, y, after, values, cause, rfl, hbefore, hcause, rfl⟩ := ih.mp hrest
        exact ⟨x :: before, y, after, values, cause, rfl,
          computeDerived_cons_eq_ok_iff.mpr ⟨v, hv, hbefore⟩, hcause, rfl⟩
    · rintro ⟨_ | ⟨z, before⟩, y, after, values, cause, heq, hbefore, hcause, rfl⟩
      · obtain ⟨rfl, rfl⟩ := List.cons.inj heq
        cases hbefore
        exact .inl ⟨cause, hcause, rfl⟩
      · obtain ⟨rfl, rfl⟩ := List.cons.inj heq
        obtain ⟨v, hv, hbefore⟩ := computeDerived_cons_eq_ok_iff.mp hbefore
        exact .inr ⟨v, hv, ih.mpr ⟨before, y, after, values, cause, rfl, hbefore, hcause, rfl⟩⟩

/-- An expression over fields with values is never undefined. -/
theorem eval_ne_undefined {known : List String} {e : Expr} (hreads : ReadsOnly known e)
    (hknown : ∀ n ∈ known, (fields.get? n).isSome) {n : String} :
    e.eval fields ≠ .error (.undefinedField n) := by
  intro h
  obtain ⟨hmem, hnone⟩ := Expr.of_eval_undefined h
  have hsome := hknown n (hreads n hmem)
  rw [hnone] at hsome
  cases hsome

/-- No derived value is undefined if the names in scope have values. -/
theorem computeDerived_ne_undefined {known : List String} (hscope : InScope known xs)
    (hknown : ∀ n ∈ known, (fields.get? n).isSome) {name n : String} :
    computeDerived fields xs ≠ .error (.derived name (.undefinedField n)) := by
  intro h
  obtain ⟨before, x, after, values, cause, heq, hbefore, hcause, hdefect⟩ :=
    computeDerived_eq_error_iff.mp h
  cases hdefect
  refine eval_ne_undefined (hscope before x after heq) (fun m hm => ?_) hcause
  refine isSome_of_computeDerived hbefore ?_
  exact (List.mem_append.mp hm).imp_left (hknown m)

/-! ## Reports -/

variable {t : Template} {input : Json} {r : Report}

theorem evaluate_eq (t : Template) (input : Json) :
    t.evaluate input =
      if (checkInputs input t.fields).errorCount = 0 then
        (computeDerived (checkInputs input t.fields).fields t.derived).map
          fun fields => { checkInputs input t.fields with fields }
      else .ok (checkInputs input t.fields) := by
  show (if (checkInputs input t.fields).isValid then _ else _) = _
  simp only [Report.isValid, beq_iff_eq]
  rfl

theorem evaluate_eq_ok_iff :
    t.evaluate input = .ok r ↔
      ((checkInputs input t.fields).errorCount ≠ 0 ∧ checkInputs input t.fields = r) ∨
      ((checkInputs input t.fields).errorCount = 0 ∧
        ∃ fields, computeDerived (checkInputs input t.fields).fields t.derived = .ok fields ∧
          { checkInputs input t.fields with fields } = r) := by
  rw [evaluate_eq]
  by_cases hcount : (checkInputs input t.fields).errorCount = 0
  · rw [if_pos hcount, map_eq_ok_iff]
    exact ⟨fun h => .inr ⟨hcount, h⟩, fun h => (h.resolve_left fun h => h.1 hcount).2⟩
  · rw [if_neg hcount, Except.ok.injEq]
    exact ⟨fun h => .inl ⟨hcount, h⟩, fun h => (h.resolve_right fun h => hcount h.1).2⟩

theorem evaluate_eq_error_iff :
    t.evaluate input = .error defect ↔
      (checkInputs input t.fields).errorCount = 0 ∧
        computeDerived (checkInputs input t.fields).fields t.derived = .error defect := by
  rw [evaluate_eq]
  by_cases hcount : (checkInputs input t.fields).errorCount = 0
  · rw [if_pos hcount, map_eq_error_iff]
    exact (and_iff_right hcount).symm
  · rw [if_neg hcount]
    simp [hcount]

/-- Derived values leave the messages alone. -/
theorem errors_of_evaluate (h : t.evaluate input = .ok r) :
    r.errorCount = (checkInputs input t.fields).errorCount ∧
      r.errors = (checkInputs input t.fields).errors := by
  rcases evaluate_eq_ok_iff.mp h with ⟨-, rfl⟩ | ⟨-, fields, -, rfl⟩ <;> exact ⟨rfl, rfl⟩

/-- A report without messages has the values of the whole pass. -/
theorem computeDerived_of_evaluate (h : t.evaluate input = .ok r) (hcount : r.errorCount = 0) :
    computeDerived (checkInputs input t.fields).fields t.derived = .ok r.fields := by
  rcases evaluate_eq_ok_iff.mp h with ⟨hne, rfl⟩ | ⟨-, fields, hfields, rfl⟩
  · exact absurd hcount hne
  · exact hfields

/-! ## Reports of templates that are made of definitions -/

/-- With no field rejected, every known name has a value. -/
theorem isSome_get?_of_evaluate (ht : t.Scoped) (h : t.evaluate input = .ok r)
    (hcount : r.errorCount = 0) {n : String} (hn : n ∈ t.knownNames) :
    (r.fields.get? n).isSome := by
  refine isSome_of_computeDerived (computeDerived_of_evaluate h hcount) ?_
  exact (List.mem_append.mp hn).imp_left (isSome_get?_checkInputs ht.inputs_distinct)

/-- With no field rejected, the values are the recorded ones with the derived ones beside them. -/
theorem completes_of_evaluate (ht : t.Scoped) (h : t.evaluate input = .ok r)
    (hcount : r.errorCount = 0) :
    Completes (checkInputs input t.fields).fields t.derived r.fields :=
  completes_of_computeDerived (computeDerived_of_evaluate h hcount) ht.derived_inScope
    ht.derived_new

/-- Derived values leave what is recorded for input fields alone. -/
theorem get?_of_evaluate (ht : t.Scoped) (h : t.evaluate input = .ok r) {n : String}
    (hn : n ∈ t.inputNames) :
    r.fields.get? n = (checkInputs input t.fields).fields.get? n := by
  by_cases hcount : r.errorCount = 0
  · exact (completes_of_evaluate ht h hcount).kept n (ht.not_mem_derivedNames hn)
  · rw [(errors_of_evaluate h).1] at hcount
    rcases evaluate_eq_ok_iff.mp h with ⟨-, rfl⟩ | ⟨hzero, -⟩
    · rfl
    · exact absurd hzero hcount

/-- What a report holds of a field is the outcome of the field in its turn. -/
theorem eachAfter_of_evaluate (ht : t.Scoped) (h : t.evaluate input = .ok r) :
    EachAfter (fun before f =>
      r.fields.get? f.name = some (outcomeAfter input before f).1 ∧
      r.errors.get? f.name = some (outcomeAfter input before f).2) t.fields := by
  intro before f after heq
  have hmem : f.name ∈ t.inputNames := List.mem_map_of_mem (by simp [heq])
  rw [get?_of_evaluate ht h hmem, (errors_of_evaluate h).2]
  exact eachAfter_checkInputs ht.inputs_distinct before f after heq

/-- The defect is that of the first derived value whose expression fails. -/
theorem evaluate_eq_error_iff_first (ht : t.Scoped) :
    t.evaluate input = .error defect ↔
      (∀ f ∈ t.fields, (checkInputs input t.fields).errors.get? f.name = some none) ∧
      ∃ before x after values cause, t.derived = before ++ x :: after ∧
        Completes (checkInputs input t.fields).fields before values ∧
        x.expression.eval values = .error cause ∧ defect = .derived x.name cause := by
  rw [evaluate_eq_error_iff, errorCount_eq_zero_iff_accepted ht.inputs_distinct,
    computeDerived_eq_error_iff]
  refine and_congr_right fun _ => exists_congr fun before => exists_congr fun x =>
    exists_congr fun after => exists_congr fun values => exists_congr fun cause =>
      and_congr_right fun heq => and_congr_left fun _ => ?_
  have hscope := ht.derived_inScope
  have hnew := ht.derived_new
  rw [heq] at hscope
  rw [derivedNames, heq, List.map_append] at hnew
  exact computeDerived_eq_ok_iff hscope.of_append hnew.of_append

/-- With a rejected field no value is derived. -/
theorem evaluate_of_rejected (ht : t.Scoped) {f : Field} (hf : f ∈ t.fields) {m : String}
    (hm : (checkInputs input t.fields).errors.get? f.name = some (some m)) :
    t.evaluate input = .ok (checkInputs input t.fields) := by
  have hcount : (checkInputs input t.fields).errorCount ≠ 0 := by
    intro hzero
    rw [(errorCount_eq_zero_iff_accepted ht.inputs_distinct).mp hzero f hf] at hm
    cases hm
  rw [evaluate_eq, if_neg hcount]

/-- With no field rejected, an input has a report or the defect of a derived value. -/
theorem evaluate_of_accepted (ht : t.Scoped)
    (hcount : (checkInputs input t.fields).errorCount = 0) :
    (∃ r, t.evaluate input = .ok r ∧ r.errorCount = 0) ∨
      ∃ name cause, t.evaluate input = .error (.derived name cause) := by
  cases hevaluate : t.evaluate input with
  | ok r => exact .inl ⟨r, rfl, (errors_of_evaluate hevaluate).1.trans hcount⟩
  | error defect =>
    obtain ⟨-, _, x, _, _, cause, -, -, -, rfl⟩ := (evaluate_eq_error_iff_first ht).mp hevaluate
    exact .inr ⟨x.name, cause, rfl⟩

/-- A tenant who is not married leaves the spouse out. -/
def leaseInput : Json := .object [("spouse", .object []), ("tenant", .text "Ada")]

/-- The report of a tenant who is not married. -/
def leaseReport : Report where
  fields := Dict.ofList [("tenant", .text "Ada"), ("married", .flag false),
    ("spouse.name", .text ""), ("heading", .text "ADA"), ("title", .text "ADA!")]
  errors := Dict.ofList [("tenant", none), ("married", none), ("spouse.name", none)]
  errorCount := 0

theorem evaluate_lease : leaseTemplate.evaluate leaseInput = .ok leaseReport := rfl

/--
In every report without rejected fields each derived value is that of its expression over the
values of the report, and the recorded inputs stand as they were. There is no report exactly when
all fields are accepted and some derived value fails over the inputs and the derived values before
it; the first one to do so is reported with its own failure.
-/
theorem evaluate_derives_consistently {d : Definition} {t : Template}
    (h : Template.ofDefinition d = .ok t) (input : Json) :
    (∀ r, t.evaluate input = .ok r → r.errorCount = 0 →
      (∀ x ∈ t.derived, ∃ v, r.fields.get? x.name = some v ∧
        x.expression.eval r.fields = .ok v) ∧
      ∀ f ∈ t.fields, ∃ v, (checkInputs input t.fields).fields.get? f.name = some v ∧
        r.fields.get? f.name = some v) ∧
    ∀ defect, t.evaluate input = .error defect ↔
      (∀ f ∈ t.fields, (checkInputs input t.fields).errors.get? f.name = some none) ∧
      ∃ before x after values cause, t.derived = before ++ x :: after ∧
        Completes (checkInputs input t.fields).fields before values ∧
        x.expression.eval values = .error cause ∧ defect = .derived x.name cause := by
  have ht := scoped_of_ofDefinition h
  refine ⟨fun r hr hcount => ⟨(completes_of_evaluate ht hr hcount).holds, fun f hf => ?_⟩,
    fun defect => evaluate_eq_error_iff_first ht⟩
  have hmem : f.name ∈ t.inputNames := List.mem_map_of_mem hf
  obtain ⟨v, hv⟩ : ∃ v, (checkInputs input t.fields).fields.get? f.name = some v :=
    Option.isSome_iff_exists.mp (isSome_get?_checkInputs ht.inputs_distinct hmem)
  exact ⟨v, hv, (get?_of_evaluate ht hr hmem).trans hv⟩

theorem leaseReport_consistent :
    Template.ofDefinition lease = .ok leaseTemplate ∧ ∀ x ∈ leaseTemplate.derived,
      ∃ v, leaseReport.fields.get? x.name = some v ∧ x.expression.eval leaseReport.fields = .ok v :=
  ⟨ofDefinition_lease,
    ((evaluate_derives_consistently ofDefinition_lease leaseInput).1 leaseReport evaluate_lease
      rfl).1⟩

end Paperwork
