import Paperwork.Proofs.Template.Scope

/-!
# What dependencies mean

Among some names, a dependency means the member of the field's own group that it could name; if
there is no such member it means the name as it is written (`Means`). A field of a template depends
on what its dependency means among the names declared before it, so following dependencies leads
back through the declarations and comes to an end (`follow_eq_none`). A definition loads only if
every dependency means something there. The error for the first one that does not says what it means
among all names (`ofDefinition_of_stray`).
-/

namespace Paperwork

open Template

/-! ## Meanings -/

/-- What a dependency means among names: a member of the group goes before the name itself. -/
inductive Means (names : List String) (group : Option String) (dependsOn : String) : String → Prop
  | member {g : String} (hgroup : group = some g) (hmem : memberName g dependsOn ∈ names) :
      Means names group dependsOn (memberName g dependsOn)
  | plain (hmember : ∀ g, group = some g → memberName g dependsOn ∉ names)
      (hmem : dependsOn ∈ names) : Means names group dependsOn dependsOn

variable {names earlier all : List String} {group : Option String} {dependsOn n : String}

theorem Means.mem (h : Means names group dependsOn n) : n ∈ names := by
  cases h with
  | member hgroup hmem => exact hmem
  | plain hmember hmem => exact hmem

/-- The first candidate among some names is what the dependency means there. -/
theorem find?_candidates_eq_some_iff :
    (candidates group dependsOn).find? names.contains = some n ↔
      Means names group dependsOn n := by
  constructor
  · intro h
    cases group with
    | none =>
      have hmem : n ∈ names := by simpa using List.find?_some h
      obtain rfl : n = dependsOn := by simpa [candidates] using List.mem_of_find?_eq_some h
      exact .plain (by simp) hmem
    | some g =>
      by_cases hmember : memberName g dependsOn ∈ names
      · rw [candidates, List.find?_cons_of_pos (by simpa using hmember)] at h
        obtain rfl := Option.some.inj h
        exact .member rfl hmember
      · rw [candidates, List.find?_cons_of_neg (by simpa using hmember)] at h
        have hmem : n ∈ names := by simpa using List.find?_some h
        obtain rfl : n = dependsOn := by simpa using List.mem_of_find?_eq_some h
        refine .plain (fun g' hg' => ?_) hmem
        obtain rfl := Option.some.inj hg'
        exact hmember
  · intro h
    cases h with
    | member hgroup hmem =>
      subst hgroup
      rw [candidates, List.find?_cons_of_pos (by simpa using hmem)]
    | plain hmember hmem =>
      cases group with
      | none => rw [candidates, List.find?_cons_of_pos (by simpa using hmem)]
      | some g =>
        rw [candidates, List.find?_cons_of_neg (by simpa using hmember g rfl),
          List.find?_cons_of_pos (by simpa using hmem)]

theorem find?_candidates_eq_none_iff :
    (candidates group dependsOn).find? names.contains = none ↔
      ∀ n, ¬ Means names group dependsOn n := by
  rw [Option.eq_none_iff_forall_ne_some]
  exact forall_congr' fun n => not_congr find?_candidates_eq_some_iff

theorem meaning?_eq_some_iff {f : Field} :
    meaning? earlier f = some n ↔
      ∃ dependsOn, f.dependsOn = some dependsOn ∧ Means earlier f.group dependsOn n := by
  rw [meaning?, Option.bind_eq_some_iff]
  simp only [find?_candidates_eq_some_iff]

theorem dependencyDeclared_iff_means {written : Option String} :
    DependencyDeclared earlier group written ↔
      ∀ dependsOn, written = some dependsOn → ∃ n, Means earlier group dependsOn n := by
  simp only [DependencyDeclared, ← exists_candidate_iff, find?_candidates_eq_some_iff]

/-! ## Dependencies of a template -/

variable {d : Definition} {t : Template}

theorem resolved_append (fs rest : List Field) :
    resolved earlier (fs ++ rest) =
      resolved earlier fs ++ resolved (earlier ++ fs.map (·.name)) rest := by
  induction fs generalizing earlier with
  | nil => simp [resolved]
  | cons f fs ih => simp [resolved, ih]

/-- A field of a template stands where it is declared, with its dependency resolved. -/
theorem exists_field_of_declared (h : ofDefinition d = .ok t) {before after : List FlatField}
    {f : FlatField} (hsplit : d.flatFields = before ++ f :: after) :
    ∃ earlier x later, t.fields = earlier ++ x :: later ∧
      earlier.map (·.name) = before.map FlatField.name ∧ x.name = f.name ∧
      ∀ n, x.dependsOn = some n ↔ ∃ dependsOn, f.definition.dependsOn = some dependsOn ∧
        Means (before.map FlatField.name) f.group dependsOn n := by
  obtain ⟨declared, hmade, hfields⟩ := (Definition.describes_of_ofDefinition h).fields
  rw [hsplit] at hmade
  obtain ⟨xs, ys, hxs, hys, rfl⟩ := forall₂_append_left_iff.mp hmade
  obtain ⟨x, rest, hx, hrest, rfl⟩ := List.forall₂_cons_left_iff.mp hys
  have hnames : xs.map (·.name) = before.map FlatField.name := Definition.map_name_of_made hxs
  obtain ⟨hdependsOn, hgroup⟩ := Field.dependsOn_of_ofDefinition hx
  rw [resolved_append, resolved, List.nil_append, hnames] at hfields
  have hname : x.name = f.name := Field.name_of_ofDefinition hx
  refine ⟨_, _, _, hfields, ?_, hname, fun n => ?_⟩
  · rw [map_name_resolved, hnames]
  · show meaning? (before.map FlatField.name) x = some n ↔ _
    rw [meaning?_eq_some_iff, hdependsOn, hgroup]

/-! ## Following dependencies -/

/-- The name that a name leads to when dependencies are followed for a number of steps. -/
def Template.follow (t : Template) : Nat → String → Option String
  | 0, name => some name
  | k + 1, name => (t.field? name).bind fun f => f.dependsOn.bind (t.follow k)

/-- Every step goes back in the order of declaration. -/
theorem exists_field_of_follow (h : ofDefinition d = .ok t) {k : Nat} {earlier later : List Field}
    {x : Field} (hsplit : t.fields = earlier ++ x :: later) (hfollow : t.follow k x.name = some n) :
    ∃ before y after, t.fields = before ++ y :: after ∧ y.name = n ∧
      before.length + k ≤ earlier.length := by
  induction k generalizing earlier x later with
  | zero =>
    obtain rfl := Option.some.inj hfollow
    exact ⟨earlier, x, later, hsplit, rfl, Nat.le_refl _⟩
  | succ k ih =>
    have hfield : t.field? x.name = some x :=
      find?_name_of_mem (scoped_of_ofDefinition h).inputs_distinct (by simp [hsplit])
    rw [Template.follow, hfield, Option.bind_some, Option.bind_eq_some_iff] at hfollow
    obtain ⟨m, hm, hfollow⟩ := hfollow
    obtain ⟨y, hy, rfl⟩ := List.mem_map.mp (dependsOn_declared_before h earlier x later hsplit m hm)
    obtain ⟨front, back, rfl⟩ := List.append_of_mem hy
    rw [List.append_assoc, List.cons_append] at hsplit
    obtain ⟨before, z, after, hz, hname, hlength⟩ := ih hsplit hfollow
    refine ⟨before, z, after, hz, hname, ?_⟩
    rw [List.length_append, List.length_cons]
    omega

/-- A field does not lead further than to all of the fields before it. -/
theorem follow_eq_none (h : ofDefinition d = .ok t) {earlier later : List Field} {x : Field}
    (hsplit : t.fields = earlier ++ x :: later) : t.follow (earlier.length + 1) x.name = none := by
  rw [Option.eq_none_iff_forall_ne_some]
  intro n hn
  obtain ⟨before, y, after, -, -, hlength⟩ := exists_field_of_follow h hsplit hn
  omega

/-! ## Dependencies without a meaning -/

/-- The dependency of a field means nothing among the names declared before the field. -/
def FlatField.IsStray (before : List FlatField) (f : FlatField) : Prop :=
  ∃ dependsOn, f.definition.dependsOn = some dependsOn ∧
    ∀ n, ¬ Means (before.map FlatField.name) f.group dependsOn n

theorem not_isStray_iff {before : List FlatField} {f : FlatField} :
    ¬ f.IsStray before ↔
      DependencyDeclared (before.map FlatField.name) f.group f.definition.dependsOn := by
  rw [dependencyDeclared_iff_means, FlatField.IsStray]
  push Not
  rfl

/-- The error of a dependency that means nothing among the earlier names. -/
inductive StrayError (all : List String) (name : String) (group : Option String)
    (dependsOn : String) : TemplateError → Prop
  | forward {n : String} (h : Means all group dependsOn n) :
      StrayError all name group dependsOn (.forwardDependency name n)
  | unknown (h : ∀ n, ¬ Means all group dependsOn n) :
      StrayError all name group dependsOn (.unknownDependency name dependsOn)

theorem exists_error_of_resolveDependency {f : Field}
    (hearlier : ∀ n, ¬ Means earlier f.group dependsOn n) :
    ∃ e, resolveDependency earlier all f dependsOn = .error e ∧
      StrayError all f.name f.group dependsOn e := by
  rw [resolveDependency, find?_candidates_eq_none_iff.mpr hearlier]
  cases hall : (candidates f.group dependsOn).find? all.contains with
  | some n => exact ⟨_, rfl, .forward (find?_candidates_eq_some_iff.mp hall)⟩
  | none => exact ⟨_, rfl, .unknown (find?_candidates_eq_none_iff.mp hall)⟩

theorem resolveAll_cons_of_declared {x : Field} {rest : List Field}
    (hx : DependencyDeclared earlier x.group x.dependsOn) :
    resolveAll earlier all (x :: rest) =
      (resolveAll (earlier ++ [x.name]) all rest).map
        ({ x with dependsOn := meaning? earlier x } :: ·) := by
  rw [dependencyDeclared_iff_means] at hx
  rw [resolveAll, meaning?]
  cases hdependsOn : x.dependsOn with
  | none =>
    cases resolveAll (earlier ++ [x.name]) all rest <;> rfl
  | some dependsOn =>
    obtain ⟨n, hn⟩ := hx dependsOn hdependsOn
    rw [← find?_candidates_eq_some_iff] at hn
    have hok : resolveDependency earlier all x dependsOn = .ok n :=
      resolveDependency_eq_ok_iff.mpr hn
    show (resolveDependency earlier all x dependsOn).map some >>= _ = _
    rw [hok, Option.bind_some, hn]
    cases resolveAll (earlier ++ [x.name]) all rest <;> rfl

/-- A dependency that cannot be resolved ends the run after the fields before it. -/
theorem resolveAll_eq_error {before after : List Field} {f : Field} {e : TemplateError}
    (hbefore : EachAfter (fun before x =>
      DependencyDeclared (earlier ++ before.map (·.name)) x.group x.dependsOn) before)
    (hf : f.dependsOn = some dependsOn)
    (he : resolveDependency (earlier ++ before.map (·.name)) all f dependsOn = .error e) :
    resolveAll earlier all (before ++ f :: after) = .error e := by
  induction before generalizing earlier with
  | nil =>
    rw [List.map_nil, List.append_nil] at he
    rw [List.nil_append, resolveAll, hf]
    refine bind_eq_error_iff.mpr (.inl ?_)
    exact map_eq_error_iff.mpr he
  | cons x before ih =>
    obtain ⟨hx, hbefore⟩ := eachAfter_cons.mp hbefore
    rw [List.map_nil, List.append_nil] at hx
    rw [List.cons_append, resolveAll_cons_of_declared hx, map_eq_error_iff]
    refine ih (hbefore.imp fun before y hy => ?_) ?_
    · simpa using hy
    · simpa using he

/-- The first field whose dependency means nothing before it is the one that loading fails at. -/
theorem ofDefinition_of_stray {before after : List FlatField} {f : FlatField}
    (hdistinct : d.inputNames.Nodup)
    (hvalid : ∀ f ∈ d.flatFields, f.definition.HasOptions ∧ f.definition.DefaultFits)
    (hsplit : d.flatFields = before ++ f :: after)
    (hbefore : EachAfter (fun before f => ¬ f.IsStray before) before)
    (hdependsOn : f.definition.dependsOn = some dependsOn)
    (hstray : ∀ n, ¬ Means (before.map FlatField.name) f.group dependsOn n) :
    ∃ e, ofDefinition d = .error e ∧ StrayError d.inputNames f.name f.group dependsOn e := by
  obtain ⟨declared, hmade⟩ := exists_forall₂_iff.mpr fun f hf =>
    (Field.exists_ofDefinition_iff f.name f.group).mpr (hvalid f hf)
  have hnames : declared.map (·.name) = d.inputNames := Definition.map_name_of_made hmade
  have hdeclared : declareFields [] d.flatFields = .ok declared :=
    declareFields_eq_ok_iff.mpr ⟨⟨hdistinct, by simp⟩, hmade⟩
  rw [hsplit] at hmade
  obtain ⟨xs, ys, hxs, hys, rfl⟩ := forall₂_append_left_iff.mp hmade
  obtain ⟨x, rest, hx, hrest, rfl⟩ := List.forall₂_cons_left_iff.mp hys
  obtain ⟨hwritten, hgroup⟩ := Field.dependsOn_of_ofDefinition hx
  have hxname : x.name = f.name := Field.name_of_ofDefinition hx
  have hearlier : xs.map (·.name) = before.map FlatField.name := Definition.map_name_of_made hxs
  simp only [not_isStray_iff] at hbefore
  rw [Definition.dependencyDeclared_iff hxs] at hbefore
  rw [← hearlier, ← hgroup] at hstray
  obtain ⟨e, he, hmeans⟩ : ∃ e,
      resolveDependency (xs.map (·.name)) d.inputNames x dependsOn = .error e ∧
        StrayError d.inputNames x.name x.group dependsOn e :=
    exists_error_of_resolveDependency hstray
  have hresolved : resolveAll [] d.inputNames (xs ++ x :: rest) = .error e :=
    resolveAll_eq_error hbefore (hwritten.trans hdependsOn) he
  refine ⟨e, ?_, by rw [← hxname, ← hgroup]; exact hmeans⟩
  rw [ofDefinition, bind_eq_error_iff]
  refine .inr ⟨_, hdeclared, bind_eq_error_iff.mpr (.inl ?_)⟩
  rw [hnames]
  exact hresolved

/--
In a template, the dependency of each field is what it means among the names declared before the
field, so it is neither the field itself nor a later one, and following dependencies from the field
ends within as many steps as there are fields up to it. A definition whose fields are valid by
themselves and have distinct names, but in which the dependency of some field means nothing before
it, fails to load at the first such field. The error names what the dependency means among all
names, or the dependency as it is written if that means nothing either.
-/
theorem ofDefinition_resolves_backwards (d : Definition) :
    (∀ t, ofDefinition d = .ok t → ∀ before f after, d.flatFields = before ++ f :: after →
      ∃ earlier x later, t.fields = earlier ++ x :: later ∧
        earlier.map (·.name) = before.map FlatField.name ∧ x.name = f.name ∧
        (f.definition.dependsOn = none → x.dependsOn = none) ∧
        (∀ dependsOn, f.definition.dependsOn = some dependsOn →
          ∃ n, x.dependsOn = some n ∧ Means (before.map FlatField.name) f.group dependsOn n ∧
            n ∉ (f :: after).map FlatField.name) ∧
        t.follow (before.length + 1) f.name = none) ∧
    (d.inputNames.Nodup →
      (∀ f ∈ d.flatFields, f.definition.HasOptions ∧ f.definition.DefaultFits) →
      (∃ before f after, d.flatFields = before ++ f :: after ∧ f.IsStray before) →
      ∃ before f after dependsOn e, d.flatFields = before ++ f :: after ∧
        EachAfter (fun before f => ¬ f.IsStray before) before ∧
        f.definition.dependsOn = some dependsOn ∧
        (∀ n, ¬ Means (before.map FlatField.name) f.group dependsOn n) ∧
        ofDefinition d = .error e ∧ StrayError d.inputNames f.name f.group dependsOn e) := by
  constructor
  · intro t h before f after hsplit
    obtain ⟨earlier, x, later, hfields, hnames, hname, hdependsOn⟩ :=
      exists_field_of_declared h hsplit
    have hwellFormed := Definition.wellFormed_of_ofDefinition h
    have hlength : earlier.length = before.length := by
      simpa using congrArg List.length hnames
    refine ⟨earlier, x, later, hfields, hnames, hname, fun hnone => ?_,
      fun dependsOn hsome => ?_, ?_⟩
    · rw [Option.eq_none_iff_forall_ne_some]
      intro n hn
      obtain ⟨dependsOn, hsome, -⟩ := (hdependsOn n).mp hn
      rw [hnone] at hsome
      cases hsome
    · obtain ⟨n, hn⟩ := dependencyDeclared_iff_means.mp
        (hwellFormed.dependencies_declared before f after hsplit) dependsOn hsome
      refine ⟨n, (hdependsOn n).mpr ⟨dependsOn, hsome, hn⟩, hn, fun hlater => ?_⟩
      have hdistinct := hwellFormed.inputs_distinct
      rw [Definition.inputNames, hsplit, List.map_append, List.nodup_append'] at hdistinct
      exact hdistinct.2.2 hn.mem hlater
    · rw [← hlength, ← hname]
      exact follow_eq_none h hfields
  · rintro hdistinct hvalid ⟨front, g, back, hfront, hstray⟩
    rcases eachAfter_or_exists_first (fun before f => ¬ f.IsStray before) d.flatFields with
      hnone | ⟨before, f, after, hsplit, hbefore, hfirst⟩
    · exact absurd hstray (hnone front g back hfront)
    · obtain ⟨dependsOn, hdependsOn, hmeans⟩ := not_not.mp hfirst
      obtain ⟨e, he, hstrayError⟩ :=
        ofDefinition_of_stray hdistinct hvalid hsplit hbefore hdependsOn hmeans
      exact ⟨before, f, after, dependsOn, e, hsplit, hbefore, hdependsOn, hmeans, he, hstrayError⟩

/-! ## A household -/

/-- A household: whether the spouse owns it is asked if anyone does, and since when if so. -/
def household : Definition where
  name := "household"
  fields := [
    .field { name := "owner", kind := .boolean },
    .group { group := "spouse", fields := [
      { name := "owner", kind := .boolean, dependsOn := some "owner" },
      { name := "since", dependsOn := some "owner" }] }]

/-- The template of a household. -/
def householdTemplate : Template where
  name := "household"
  layout := [.field "owner", .group "spouse" "spouse" ["spouse.owner", "spouse.since"]]
  fields := [
    ⟨"owner", "owner", none, .boolean, [], .flag false, true, none, none, none⟩,
    ⟨"spouse.owner", "spouse.owner", none, .boolean, [], .flag false, true, some "owner", none,
      some "spouse"⟩,
    ⟨"spouse.since", "spouse.since", none, .string, [], .text "", true, some "spouse.owner", none,
      some "spouse"⟩]
  derived := []
  documents := []

theorem ofDefinition_household : ofDefinition household = .ok householdTemplate := rfl

/-- A household that asks since when before it asks whether. -/
def hastyHousehold : Definition where
  name := "household"
  fields := [
    .group { group := "spouse", fields := [
      { name := "since", dependsOn := some "owner" }, { name := "owner" }] },
    .field { name := "owner" }]

theorem household_resolves_backwards :
    (ofDefinition household = .ok householdTemplate ∧
      ∃ earlier x later, householdTemplate.fields = earlier ++ x :: later ∧
        earlier.map (·.name) = ["owner", "spouse.owner"] ∧ x.name = "spouse.since" ∧
        ∃ n, x.dependsOn = some n ∧ Means ["owner", "spouse.owner"] (some "spouse") "owner" n ∧
          n ∉ ["spouse.since"]) ∧
    ∃ before f after dependsOn, hastyHousehold.flatFields = before ++ f :: after ∧
      f.definition.dependsOn = some dependsOn ∧
      (∀ n, ¬ Means (before.map FlatField.name) f.group dependsOn n) ∧
      ofDefinition hastyHousehold = .error (.forwardDependency "spouse.since" "spouse.owner") ∧
      StrayError hastyHousehold.inputNames f.name f.group dependsOn
        (.forwardDependency "spouse.since" "spouse.owner") := by
  constructor
  · obtain ⟨earlier, x, later, hfields, hnames, hname, -, hdependsOn, -⟩ :=
      (ofDefinition_resolves_backwards household).1 _ ofDefinition_household
        (household.flatFields.take 2) household.flatFields[2] [] rfl
    exact ⟨ofDefinition_household, earlier, x, later, hfields, hnames, hname,
      hdependsOn "owner" rfl⟩
  · have hplain : ∀ f ∈ hastyHousehold.flatFields,
        f.definition.kind = .string ∧ f.definition.default.isNone = true := by decide
    have hvalid : ∀ f ∈ hastyHousehold.flatFields,
        f.definition.HasOptions ∧ f.definition.DefaultFits := by
      intro f hf
      obtain ⟨hkind, hdefault⟩ := hplain f hf
      refine ⟨fun hchoice => ?_, fun raw hraw => ?_⟩
      · rw [hkind] at hchoice
        cases hchoice
      · rw [hraw] at hdefault
        cases hdefault
    have hstray : FlatField.IsStray [] hastyHousehold.flatFields[0] :=
      ⟨"owner", rfl, fun n hn => List.not_mem_nil hn.mem⟩
    obtain ⟨before, f, after, dependsOn, e, hsplit, -, hdependsOn, hmeans, he, herror⟩ :=
      (ofDefinition_resolves_backwards hastyHousehold).2 (by decide) hvalid ⟨[], _, _, rfl, hstray⟩
    have hforward : ofDefinition hastyHousehold =
        .error (.forwardDependency "spouse.since" "spouse.owner") := rfl
    rw [hforward] at he
    obtain rfl := Except.error.inj he
    exact ⟨before, f, after, dependsOn, hsplit, hdependsOn, hmeans, hforward, herror⟩

end Paperwork
