import Paperwork.Proofs.Json.Objects
import Paperwork.Proofs.Report.Types

/-!
# Flat and nested input

A member of a group is given under its flat name or inside of the object of its group. What a
template looks up for a field is the raw value that the input has in one of the two places
(`rawInput?_eq_rawIn?`), and its report depends on nothing else in the input. So an input can be
made flat without a change of the report, as long as no group has the name of a field
(`evaluate_flatInput`).
-/

namespace Paperwork

open Template

/-! ## Where a field is given -/

/-- The raw value of a field: under its flat name, or that of a member of its group's object. -/
def FlatField.rawIn? (f : FlatField) (input : Json) : Option Json :=
  match input.member? f.name with
  | some raw => some raw
  | none => do (← input.member? (← f.group)).member? f.definition.name

/-- The input with the raw value of each field under its flat name, and nothing else. -/
def Definition.flatInput (d : Definition) (input : Json) : Json :=
  Json.objectOf (d.flatFields.filterMap fun f => (f.rawIn? input).map (f.name, ·))

/-- No group has the name of a field. -/
def Definition.GroupsApart (d : Definition) : Prop :=
  ∀ g, FieldEntry.group g ∈ d.fields → g.group ∉ d.inputNames

/-- Two inputs have the same under every key that a field or a member of a group goes by. -/
structure Definition.HaveAlike (d : Definition) (a b : Json) : Prop where
  fields : ∀ f ∈ d.flatFields, a.member? f.name = b.member? f.name
  members : ∀ f ∈ d.flatFields, ∀ g, f.group = some g →
    (a.member? g).bind (·.member? f.definition.name) =
      (b.member? g).bind (·.member? f.definition.name)

theorem dropPrefix?_append (start s : String) : dropPrefix? start (start ++ s) = some s := by
  have hprefix : start.toList.isPrefixOf (start ++ s).toList = true := by
    rw [String.toList_append]
    exact List.isPrefixOf_iff_prefix.mpr (List.prefix_append _ _)
  rw [dropPrefix?, if_pos hprefix, String.toList_append, ← String.length_toList, List.drop_left,
    String.ofList_toList]

variable {d : Definition} {t : Template} {input other : Json} {f : FlatField}

/-- The field of a template has the name and the group of the definition that describes it. -/
theorem exists_flatField (h : ofDefinition d = .ok t) {x : Field} (hx : x ∈ t.fields) :
    ∃ f ∈ d.flatFields, x.name = f.name ∧ x.group = f.group := by
  obtain ⟨declared, hmade, hfields⟩ := (Definition.describes_of_ofDefinition h).fields
  rw [hfields] at hx
  obtain ⟨y, hy, dependsOn, rfl⟩ := mem_resolved hx
  obtain ⟨f, hf, hdescribes⟩ := exists_left_of_forall₂ hmade hy
  have hname : y.name = f.name := Field.name_of_ofDefinition hdescribes
  exact ⟨f, hf, hname, (Field.dependsOn_of_ofDefinition hdescribes).2⟩

/-- What is looked up for a field of a template is the raw value of the field in the input. -/
theorem rawInput?_eq_rawIn? {x : Field} (hname : x.name = f.name) (hgroup : x.group = f.group)
    (input : Json) : x.rawInput? input = f.rawIn? input := by
  unfold Field.rawInput? FlatField.rawIn? Field.memberName?
  rw [hname, hgroup]
  cases hfound : input.member? f.name with
  | some raw => rfl
  | none =>
    cases hg : f.group with
    | none => rfl
    | some g =>
      have hmember : dropPrefix? (g ++ ".") f.name = some f.definition.name := by
        rw [FlatField.name, hg]
        exact dropPrefix?_append (g ++ ".") f.definition.name
      show ((dropPrefix? (g ++ ".") f.name).bind fun member => some (g, member)).bind _ = _
      rw [hmember]
      rfl

/-! ## Inputs that give every field the same -/

theorem evaluate_congr_rawInput? (h : ∀ x ∈ t.fields, x.rawInput? input = x.rawInput? other) :
    t.evaluate input = t.evaluate other := by
  have hcheck : checkInputs input t.fields = checkInputs other t.fields :=
    checkInputs_congr fun x hx prior => by rw [h x hx]
  rw [evaluate_eq, evaluate_eq, hcheck]

theorem evaluate_congr_rawIn? (h : ofDefinition d = .ok t)
    (hraw : ∀ f ∈ d.flatFields, f.rawIn? input = f.rawIn? other) :
    t.evaluate input = t.evaluate other := by
  refine evaluate_congr_rawInput? fun x hx => ?_
  obtain ⟨f, hf, hname, hgroup⟩ := exists_flatField h hx
  rw [rawInput?_eq_rawIn? hname hgroup, rawInput?_eq_rawIn? hname hgroup, hraw f hf]

theorem Definition.HaveAlike.rawIn?_eq (h : d.HaveAlike input other) (hf : f ∈ d.flatFields) :
    f.rawIn? input = f.rawIn? other := by
  unfold FlatField.rawIn?
  rw [h.fields f hf]
  cases hg : f.group with
  | none => rfl
  | some g =>
    have hmember := h.members f hf g hg
    cases other.member? f.name with
    | some raw => rfl
    | none => exact hmember

theorem rawIn?_of_not_isObject (hinput : input.isObject = false) : f.rawIn? input = none := by
  have hnone : ∀ n, input.member? n = none := by
    cases input <;> simp_all [Json.member?, Json.isObject]
  unfold FlatField.rawIn?
  rw [hnone]
  cases f.group with
  | none => rfl
  | some g =>
    show (input.member? g).bind _ = none
    rw [hnone, Option.bind_none]

/-! ## The flat input -/

/-- The flat input has what the input has for a field, and nothing else. -/
theorem member?_flatInput (hdistinct : d.inputNames.Nodup) (input : Json) :
    (∀ f ∈ d.flatFields, (d.flatInput input).member? f.name = f.rawIn? input) ∧
      ∀ n ∉ d.inputNames, (d.flatInput input).member? n = none := by
  obtain ⟨hfound, hnone⟩ :=
    entryAt_filterMap (fun f : FlatField => f.rawIn? input) hdistinct
  have hmember : ∀ n, (d.flatInput input).member? n = _ :=
    Json.member?_objectOf (nodup_map_filterMap hdistinct)
  exact ⟨fun f hf => (hmember f.name).trans (hfound f hf),
    fun n hn => (hmember n).trans (hnone n hn)⟩

theorem exists_group_of_mem_flatFields (hf : f ∈ d.flatFields) {g : String}
    (hg : f.group = some g) : ∃ entry, FieldEntry.group entry ∈ d.fields ∧ entry.group = g := by
  obtain ⟨entry, hentry, hmem⟩ := List.mem_flatMap.mp hf
  cases entry with
  | field x =>
    rw [List.mem_singleton.mp hmem] at hg
    cases hg
  | group entry =>
    obtain ⟨x, -, rfl⟩ := List.mem_map.mp hmem
    exact ⟨entry, hentry, Option.some.inj hg⟩

theorem rawIn?_flatInput (hdistinct : d.inputNames.Nodup) (hapart : d.GroupsApart)
    (hf : f ∈ d.flatFields) : f.rawIn? (d.flatInput input) = f.rawIn? input := by
  obtain ⟨hfound, hnone⟩ := member?_flatInput hdistinct input
  rw [FlatField.rawIn?, hfound f hf]
  cases f.rawIn? input with
  | some raw => rfl
  | none =>
    cases hg : f.group with
    | none => rfl
    | some g =>
      obtain ⟨entry, hentry, rfl⟩ := exists_group_of_mem_flatFields hf hg
      show ((d.flatInput input).member? entry.group).bind _ = none
      rw [hnone _ (hapart entry hentry), Option.bind_none]

/--
If no group has the name of a field, an input and the flat one that has the same raw value for each
field have the same report or the same defect. So it does not matter what an input has under keys
that belong to no field and to no member of a group, and an input that is no object counts as an
empty one.
-/
theorem evaluate_flatInput (h : ofDefinition d = .ok t) (hapart : d.GroupsApart) (input : Json) :
    t.evaluate (d.flatInput input) = t.evaluate input ∧
      (∀ other, d.HaveAlike input other → t.evaluate input = t.evaluate other) ∧
      (input.isObject = false → t.evaluate input = t.evaluate (.object [])) := by
  have hdistinct : d.inputNames.Nodup := (Definition.wellFormed_of_ofDefinition h).inputs_distinct
  refine ⟨?_, fun other halike => ?_, fun hinput => ?_⟩
  · exact evaluate_congr_rawIn? h fun f hf => rawIn?_flatInput hdistinct hapart hf
  · exact evaluate_congr_rawIn? h fun f hf => halike.rawIn?_eq hf
  · refine evaluate_congr_rawIn? h fun f _ => ?_
    rw [rawIn?_of_not_isObject hinput]
    unfold FlatField.rawIn?
    cases f.group <;> rfl

/-- A spouse inside of the group, with remarks that belong to no field. -/
def nestedInput : Json := .object [("married", .text "yes"), ("remark", .null),
  ("spouse", .object [("name", .text "Grace"), ("since", .number (.natural 1906))]),
  ("tenant", .text "Ada")]

theorem groupsApart_lease : lease.GroupsApart := by
  intro g hg
  have hgroup : g.group = "spouse" := by
    simp only [lease, List.mem_cons, reduceCtorEq, FieldEntry.group.injEq, List.not_mem_nil,
      or_false, false_or] at hg
    rw [hg]
  rw [hgroup]
  decide

theorem nestedInput_flat :
    lease.flatInput nestedInput = .object [("married", .text "yes"),
        ("spouse.name", .text "Grace"), ("tenant", .text "Ada")] ∧
      lease.GroupsApart ∧
      leaseTemplate.evaluate (.object [("married", .text "yes"), ("spouse.name", .text "Grace"),
        ("tenant", .text "Ada")]) = leaseTemplate.evaluate nestedInput :=
  ⟨rfl, groupsApart_lease, (evaluate_flatInput ofDefinition_lease groupsApart_lease nestedInput).1⟩

-- where a group is called like a member of another group, the flat input can have more to give
example :
    let d : Definition := { name := "towers", fields := [
      .group { group := "north", fields := [{ name := "wing" }] },
      .group { group := "north.wing", fields := [{ name := "floor" }] }] }
    let input : Json := .object [("north", .object [("wing", .object [("floor", .text "2")])])]
    ∃ t, ofDefinition d = .ok t ∧ t.evaluate (d.flatInput input) ≠ t.evaluate input :=
  ⟨_, rfl, by decide⟩

end Paperwork
