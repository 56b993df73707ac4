import Paperwork.Proofs.Field.Declaration
import Paperwork.Proofs.Sequence
import Paperwork.Template.Build

/-!
# Reading declarations in turn

When each of the four loops of `Template.ofDefinition` succeeds, and with what. For every loop,
`…_cons` says what it takes to read one declaration in view of those before it, and `…_eq_ok_iff`
what it takes to read them all.
-/

namespace Paperwork

/-- The field that a definition describes, with its dependency as it is written. -/
def FlatField.Describes (f : FlatField) (x : Field) : Prop :=
  Field.ofDefinition f.definition f.name f.group = .ok x

namespace Template

/-! ## Input fields -/

theorem declareFields_cons {taken : List String} {f : FlatField} {rest : List FlatField}
    {xs : List Field} :
    declareFields taken (f :: rest) = .ok xs ↔
      f.name ∉ taken ∧ ∃ x fields, f.Describes x ∧
        declareFields (taken ++ [f.name]) rest = .ok fields ∧ x :: fields = xs := by
  rw [declareFields]
  unfold FlatField.Describes
  by_cases htaken : f.name ∈ taken
  · simp [htaken]
  · rw [if_neg (by simpa using htaken)]
    cases Field.ofDefinition f.definition f.name f.group with
    | error e => simp
    | ok x =>
      simp only [bind_eq_ok_iff, pure_eq_ok_iff, htaken, not_false_eq_true, true_and,
        Except.ok.injEq]
      constructor
      · rintro ⟨fields, hrest, rfl⟩
        exact ⟨x, fields, rfl, hrest, rfl⟩
      · rintro ⟨_, fields, rfl, hrest, rfl⟩
        exact ⟨fields, hrest, rfl⟩

/-- Fields are declared when their names are new and each of them can be made. -/
theorem declareFields_eq_ok_iff {taken : List String} {fs : List FlatField} {xs : List Field} :
    declareFields taken fs = .ok xs ↔
      AreNew taken (fs.map FlatField.name) ∧
        List.Forall₂ FlatField.Describes fs xs := by
  induction fs generalizing taken xs with
  | nil => simp [declareFields, eq_comm]
  | cons f rest ih =>
    rw [declareFields_cons, List.map_cons, areNew_cons, List.forall₂_cons_left_iff]
    simp only [ih]
    constructor
    · rintro ⟨hf, x, fields, hx, ⟨hnew, hmade⟩, rfl⟩
      exact ⟨⟨hf, hnew⟩, x, fields, hx, hmade, rfl⟩
    · rintro ⟨⟨hf, hnew⟩, x, fields, hx, hmade, rfl⟩
      exact ⟨hf, x, fields, hx, ⟨hnew, hmade⟩, rfl⟩

/-! ## Dependencies -/

/-- The name that a dependency means after some fields, if one of its candidates is among them. -/
def meaning? (earlier : List String) (f : Field) : Option String :=
  f.dependsOn.bind fun d => (candidates f.group d).find? earlier.contains

/-- Fields with their dependencies replaced by what they mean. -/
def resolved (earlier : List String) : List Field → List Field
  | [] => []
  | f :: rest => { f with dependsOn := meaning? earlier f } :: resolved (earlier ++ [f.name]) rest

/-- A dependency is among the names declared before, as a member of the same group or as written. -/
def DependencyDeclared (earlier : List String) (group dependsOn : Option String) : Prop :=
  ∀ d, dependsOn = some d → (∃ g, group = some g ∧ memberName g d ∈ earlier) ∨ d ∈ earlier

theorem exists_candidate_iff {earlier : List String} {group : Option String} {d : String} :
    (∃ n, (candidates group d).find? earlier.contains = some n) ↔
      (∃ g, group = some g ∧ memberName g d ∈ earlier) ∨ d ∈ earlier := by
  rw [← Option.isSome_iff_exists, List.find?_isSome]
  cases group <;> simp [candidates]

theorem resolveDependency_eq_ok_iff {earlier all : List String} {f : Field} {d n : String} :
    resolveDependency earlier all f d = .ok n ↔
      (candidates f.group d).find? earlier.contains = some n := by
  simp only [resolveDependency]
  cases (candidates f.group d).find? earlier.contains with
  | some m => simp
  | none => cases (candidates f.group d).find? all.contains <;> simp

theorem resolveAll_cons {earlier all : List String} {f : Field} {rest xs : List Field} :
    resolveAll earlier all (f :: rest) = .ok xs ↔
      DependencyDeclared earlier f.group f.dependsOn ∧
        ∃ fields, resolveAll (earlier ++ [f.name]) all rest = .ok fields ∧
          { f with dependsOn := meaning? earlier f } :: fields = xs := by
  simp only [resolveAll, DependencyDeclared, meaning?, ← exists_candidate_iff]
  cases f.dependsOn with
  | none => simp only [bind_eq_ok_iff, pure_eq_ok_iff, Except.ok.injEq, exists_eq_left',
      reduceCtorEq, false_implies, implies_true, true_and, Option.bind_none]
  | some d =>
    simp only [bind_eq_ok_iff, pure_eq_ok_iff, map_eq_ok_iff, resolveDependency_eq_ok_iff,
      Option.some.injEq, forall_eq', Option.bind_some]
    constructor
    · rintro ⟨_, ⟨n, hn, rfl⟩, fields, hrest, rfl⟩
      exact ⟨⟨n, hn⟩, fields, hrest, by rw [hn]⟩
    · rintro ⟨⟨n, hn⟩, fields, hrest, rfl⟩
      exact ⟨_, ⟨n, hn, rfl⟩, fields, hrest, by rw [hn]⟩

/-- Dependencies are resolved when each one means a field declared before. -/
theorem resolveAll_eq_ok_iff {earlier all : List String} {fs xs : List Field} :
    resolveAll earlier all fs = .ok xs ↔
      EachAfter (fun before f =>
        DependencyDeclared (earlier ++ before.map (·.name)) f.group f.dependsOn) fs ∧
        resolved earlier fs = xs := by
  induction fs generalizing earlier xs with
  | nil => simp [resolveAll, resolved]
  | cons f rest ih =>
    rw [resolveAll_cons, eachAfter_cons, resolved]
    simp only [ih, List.map_nil, List.map_cons, List.append_nil, List.append_assoc,
      List.singleton_append]
    constructor
    · rintro ⟨hf, _, ⟨hrest, rfl⟩, rfl⟩
      exact ⟨⟨hf, hrest⟩, rfl⟩
    · rintro ⟨⟨hf, hrest⟩, rfl⟩
      exact ⟨hf, _, ⟨hrest, rfl⟩, rfl⟩

@[simp] theorem map_name_resolved {earlier : List String} {fs : List Field} :
    (resolved earlier fs).map (·.name) = fs.map (·.name) := by
  induction fs generalizing earlier with
  | nil => rfl
  | cons f rest ih => rw [resolved, List.map_cons, List.map_cons, ih]

/-! ## Derived values -/

/-- An expression that reads nothing but known fields. -/
def ReadsOnly (known : List String) (e : Expr) : Prop := ∀ n ∈ e.references, n ∈ known

theorem readExpression_eq_ok_iff {context : String} {known : List String} {v : Json} {e : Expr} :
    readExpression context known v = .ok e ↔ Expr.ofJson v = .ok e ∧ ReadsOnly known e := by
  unfold readExpression ReadsOnly
  cases Expr.ofJson v with
  | error cause => simp
  | ok e' =>
    simp only [Except.ok.injEq]
    cases hfind : e'.references.find? fun name => !known.contains name with
    | some name =>
      have hmem := List.mem_of_find?_eq_some hfind
      have hunknown := List.find?_some hfind
      simp only [reduceCtorEq, false_iff]
      rintro ⟨rfl, hknown⟩
      simp [hknown name hmem] at hunknown
    | none =>
      rw [List.find?_eq_none] at hfind
      simp only [Except.ok.injEq]
      refine ⟨?_, And.left⟩
      rintro rfl
      exact ⟨rfl, fun n hn => by simpa using hfind n hn⟩

end Template

/-- The derived value that a definition describes. -/
def DerivedDefinition.Describes (d : DerivedDefinition) (x : DerivedField) : Prop :=
  x.name = d.name ∧ Expr.ofJson d.expression = .ok x.expression

namespace Template

theorem declareDerived_cons {known : List String} {d : DerivedDefinition}
    {rest : List DerivedDefinition} {xs : List DerivedField} :
    declareDerived known (d :: rest) = .ok xs ↔
      d.name ∉ known ∧ ∃ x fields, d.Describes x ∧ ReadsOnly known x.expression ∧
        declareDerived (known ++ [d.name]) rest = .ok fields ∧ x :: fields = xs := by
  rw [declareDerived, bind_eq_ok_iff]
  simp only [readExpression_eq_ok_iff, DerivedDefinition.Describes]
  by_cases hknown : d.name ∈ known
  · simp [hknown]
  · simp only [List.contains_iff_mem, hknown, if_false, bind_eq_ok_iff, pure_eq_ok_iff,
      not_false_eq_true, true_and]
    constructor
    · rintro ⟨e, ⟨he, hreads⟩, fields, hrest, rfl⟩
      exact ⟨⟨d.name, e⟩, fields, ⟨rfl, he⟩, hreads, hrest, rfl⟩
    · rintro ⟨⟨_, e⟩, fields, ⟨rfl, he⟩, hreads, hrest, rfl⟩
      exact ⟨e, ⟨he, hreads⟩, fields, hrest, rfl⟩

/-- Derived values in turn that read nothing but known fields and those derived before. -/
def InScope (known : List String) : List DerivedField → Prop :=
  EachAfter fun before x => ReadsOnly (known ++ before.map (·.name)) x.expression

theorem inScope_cons {known : List String} {x : DerivedField} {rest : List DerivedField} :
    InScope known (x :: rest) ↔
      ReadsOnly known x.expression ∧ InScope (known ++ [x.name]) rest := by
  unfold InScope
  rw [eachAfter_cons]
  simp only [List.map_nil, List.append_nil, List.map_cons, List.append_assoc,
    List.singleton_append]

/-- Derived values are declared when they are in scope and their names are new. -/
theorem declareDerived_eq_ok_iff {known : List String} {ds : List DerivedDefinition}
    {xs : List DerivedField} :
    declareDerived known ds = .ok xs ↔
      AreNew known (ds.map (·.name)) ∧ List.Forall₂ DerivedDefinition.Describes ds xs ∧
        InScope known xs := by
  induction ds generalizing known xs with
  | nil =>
    simp only [declareDerived, Except.ok.injEq, List.map_nil, areNew_nil, true_and,
      List.forall₂_nil_left_iff]
    exact ⟨fun h => ⟨h.symm, h ▸ eachAfter_nil _⟩, fun h => h.1.symm⟩
  | cons d rest ih =>
    rw [declareDerived_cons, List.map_cons, areNew_cons, List.forall₂_cons_left_iff]
    simp only [ih]
    constructor
    · rintro ⟨hd, x, fields, hx, hreads, ⟨hnew, hmade, hscope⟩, rfl⟩
      rw [← hx.1] at hscope
      exact ⟨⟨hd, hnew⟩, ⟨x, fields, hx, hmade, rfl⟩, inScope_cons.mpr ⟨hreads, hscope⟩⟩
    · rintro ⟨⟨hd, hnew⟩, ⟨x, fields, hx, hmade, rfl⟩, hscope⟩
      obtain ⟨hreads, hscope⟩ := inScope_cons.mp hscope
      rw [hx.1] at hscope
      exact ⟨hd, x, fields, hx, hreads, ⟨hnew, hmade, hscope⟩, rfl⟩

end Template

/-! ## Documents -/

namespace DocumentDefinition

/-- The condition of a document: the one that is given, or one that always holds. -/
def HasCondition (d : DocumentDefinition) (e : Expr) : Prop :=
  match d.conditions with
  | none => e = .literal (.flag true)
  | some v => Expr.ofJson v = .ok e

/-- The document that a definition describes, before it has a payload. -/
def Describes (d : DocumentDefinition) (x : Document) : Prop :=
  x.name = d.name ∧ x.outFile = d.outFile ∧ d.HasCondition x.conditions ∧ x.contents = none

end DocumentDefinition

namespace Template

theorem readCondition_eq_ok_iff {known : List String} {d : DocumentDefinition} {e : Expr} :
    readCondition known d = .ok e ↔ d.HasCondition e ∧ ReadsOnly known e := by
  unfold readCondition DocumentDefinition.HasCondition
  cases d.conditions with
  | none =>
    simp only [Except.ok.injEq]
    constructor
    · rintro rfl
      exact ⟨rfl, by simp [ReadsOnly, Expr.references]⟩
    · rintro ⟨rfl, -⟩
      rfl
  | some v => exact readExpression_eq_ok_iff

theorem declareDocuments_cons {known taken : List String} {d : DocumentDefinition}
    {rest : List DocumentDefinition} {xs : List Document} :
    declareDocuments known taken (d :: rest) = .ok xs ↔
      d.name ∉ taken ∧ d.outFile ∈ known ∧ ∃ x documents, d.Describes x ∧
        ReadsOnly known x.conditions ∧
        declareDocuments known (taken ++ [d.name]) rest = .ok documents ∧ x :: documents = xs := by
  rw [declareDocuments]
  by_cases htaken : d.name ∈ taken
  · simp [htaken]
  by_cases hknown : d.outFile ∈ known
  · rw [if_neg (by simpa using htaken), if_neg (by simpa using hknown)]
    simp only [htaken, hknown, not_false_eq_true, true_and, bind_eq_ok_iff, pure_eq_ok_iff,
      readCondition_eq_ok_iff, DocumentDefinition.Describes]
    constructor
    · rintro ⟨e, ⟨he, hreads⟩, documents, hrest, rfl⟩
      exact ⟨⟨d.name, d.outFile, e, none⟩, documents, ⟨rfl, rfl, he, rfl⟩, hreads, hrest, rfl⟩
    · rintro ⟨⟨_, _, e, _⟩, documents, ⟨rfl, rfl, he, rfl⟩, hreads, hrest, rfl⟩
      exact ⟨e, ⟨he, hreads⟩, documents, hrest, rfl⟩
  · simp [htaken, hknown]

/-- Documents are declared when their names are new and they look at known fields only. -/
theorem declareDocuments_eq_ok_iff {known taken : List String} {ds : List DocumentDefinition}
    {xs : List Document} :
    declareDocuments known taken ds = .ok xs ↔
      AreNew taken (ds.map (·.name)) ∧ (∀ d ∈ ds, d.outFile ∈ known) ∧
        List.Forall₂ (fun d x => d.Describes x ∧ ReadsOnly known x.conditions) ds xs := by
  induction ds generalizing taken xs with
  | nil => simp [declareDocuments, eq_comm]
  | cons d rest ih =>
    rw [declareDocuments_cons, List.map_cons, areNew_cons, List.forall_mem_cons,
      List.forall₂_cons_left_iff]
    simp only [ih]
    constructor
    · rintro ⟨hd, hout, x, documents, hx, hreads, ⟨hnew, houts, hmade⟩, rfl⟩
      exact ⟨⟨hd, hnew⟩, ⟨hout, houts⟩, x, documents, ⟨hx, hreads⟩, hmade, rfl⟩
    · rintro ⟨⟨hd, hnew⟩, ⟨hout, houts⟩, x, documents, ⟨hx, hreads⟩, hmade, rfl⟩
      exact ⟨hd, hout, x, documents, hx, hreads, ⟨hnew, houts, hmade⟩, rfl⟩

end Template

end Paperwork
