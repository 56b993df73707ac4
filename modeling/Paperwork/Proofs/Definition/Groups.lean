import Paperwork.Definition.Source
import Paperwork.Proofs.Json.ReadBack
import Paperwork.Proofs.Sequence
import Paperwork.Proofs.Tree.Objects
import Paperwork.Proofs.Tree.Parts

/-!
# Groups in definitions

An entry of a definition is tried as a group, and on any failure inside of it as a plain field. What
is read from an object is told by its members alone (`FieldEntry.IsReading`), and a load of a
definition reads every entry so (`Definition.ofText_reads_groups`). A group with a fault in it is
therefore refused as long as no `name` stands beside its own; with one it passes for a field
(`Definition.misspelledGroup_is_read_as_field`), and its members are lost.
-/

namespace Paperwork

open Paperwork.Tree

/-! ## Groups and fields as objects -/

section Objects

variable {levels : Nat} {t : Tree} {members : List (String × Tree)}

/-- The members of an object spell a group: its name, perhaps a label, and all fields in it. -/
structure GroupDefinition.IsWritten (levels : Nat) (members : List (String × Tree))
    (g : GroupDefinition) : Prop where
  group : ∃ v, valuesUnder members "group" = [v] ∧ v.text? .stored = .ok g.group
  label : (valuesUnder members "label").length ≤ 1 ∧
    givenOrNone .stored (text? .stored) (valuesUnder members "label").head? = .ok g.label
  fields : ∃ v items, valuesUnder members "fields" = [v] ∧ v.items? .stored = .ok items ∧
    List.Forall₂ (fun item f => FieldDefinition.ofTree? levels item = .ok f) items g.fields

theorem GroupDefinition.position?_keys (s : String) :
    (position? keys s = some 0 ↔ s = "group") ∧ (position? keys s = some 1 ↔ s = "label") ∧
      (position? keys s = some 2 ↔ s = "fields") := by
  unfold position? keys
  by_cases hgroup : s = "group"
  · subst hgroup
    decide
  by_cases hlabel : s = "label"
  · subst hlabel
    decide
  by_cases hfields : s = "fields"
  · subst hfields
    decide
  simp [List.findIdx?_cons, hgroup, hlabel, hfields]

theorem FieldDefinition.position?_keys (s : String) : position? keys s = some 0 ↔ s = "name" := by
  unfold position? keys
  rw [List.findIdx?_cons]
  by_cases hname : s = "name"
  · simp [hname]
  · simp [hname]

theorem GroupDefinition.valuesAt_keys (members : List (String × Tree)) :
    valuesAt keys members 0 = valuesUnder members "group" ∧
      valuesAt keys members 1 = valuesUnder members "label" ∧
      valuesAt keys members 2 = valuesUnder members "fields" :=
  ⟨valuesAt_eq (fun s => (position?_keys s).1) members,
    valuesAt_eq (fun s => (position?_keys s).2.1) members,
    valuesAt_eq (fun s => (position?_keys s).2.2) members⟩

theorem GroupDefinition.isWritten_of_ofTree? {g : GroupDefinition} (h : t.IsObject members)
    (hread : GroupDefinition.ofTree? levels t = .ok g) : g.IsWritten levels members := by
  obtain ⟨hgroup, hlabel, hfields⟩ := valuesAt_keys members
  simp only [GroupDefinition.ofTree?, bind_eq_ok_iff, pure_eq_ok_iff] at hread
  obtain ⟨slots, hslots, group, hname, label, hoption, fields, hlist, rfl⟩ := hread
  obtain ⟨-, hvalues⟩ := (slots?_eq_ok_iff h).mp hslots
  obtain ⟨v, hv, hname⟩ := exists_of_given hname
  obtain ⟨w, hw, hlist⟩ := exists_of_given hlist
  obtain ⟨items, hitems, hread⟩ := bind_eq_ok_iff.mp hlist
  obtain ⟨honce, hfirst⟩ := toList_eq_iff.mp (hvalues 1)
  rw [hfirst] at hoption
  rw [hlabel] at honce hoption
  refine ⟨⟨v, ?_, hname⟩, ⟨honce, hoption⟩, w, items, ?_, hitems, readItems_eq_ok_iff.mp hread⟩
  · rw [← hgroup, ← hvalues 0, hv, Option.toList_some]
  · rw [← hfields, ← hvalues 2, hw, Option.toList_some]

/-- Members that spell a group fill each of its slots once at most, so it is read from them. -/
theorem GroupDefinition.IsWritten.ofTree?_eq {g : GroupDefinition} (h : t.IsObject members)
    (hwritten : g.IsWritten levels members) : GroupDefinition.ofTree? levels t = .ok g := by
  obtain ⟨hgroup, hlabel, hfields⟩ := valuesAt_keys members
  obtain ⟨⟨v, hv, hname⟩, ⟨honce, hoption⟩, w, items, hw, hitems, hread⟩ := hwritten
  rw [← hgroup] at hv
  rw [← hlabel] at honce hoption
  rw [← hfields] at hw
  have hall : ∀ i, (valuesAt keys members i).length ≤ 1 := by
    intro i
    rcases i with _ | _ | _ | n
    · rw [hv]
      exact Nat.le_refl 1
    · exact honce
    · rw [hw]
      exact Nat.le_refl 1
    · rw [valuesAt_of_length_le (Nat.le_add_left 3 n)]
      exact Nat.zero_le 1
  obtain ⟨slots, hslots⟩ := exists_slots? h hall
  obtain ⟨-, hvalues⟩ := (slots?_eq_ok_iff h).mp hslots
  have hslot : ∀ i, slot slots i = (valuesAt keys members i).head? := fun i =>
    (toList_eq_iff.mp (hvalues i)).2
  simp only [GroupDefinition.ofTree?, bind_eq_ok_iff, pure_eq_ok_iff]
  refine ⟨slots, hslots, g.group, ?_, g.label, ?_, g.fields, ?_, rfl⟩
  · rw [hslot 0, hv]
    exact hname
  · rw [hslot 1]
    exact hoption
  · rw [hslot 2, hw]
    exact bind_eq_ok_iff.mpr ⟨items, hitems, readItems_eq_ok_iff.mpr hread⟩

/-- An object is read as a group exactly if its members spell it. -/
theorem GroupDefinition.ofTree?_eq_ok_iff {g : GroupDefinition} (h : t.IsObject members) :
    GroupDefinition.ofTree? levels t = .ok g ↔ g.IsWritten levels members :=
  ⟨isWritten_of_ofTree? h, IsWritten.ofTree?_eq h⟩

/-- A field that is read from an object has the name that the object gives for it. -/
theorem FieldDefinition.name_of_ofTree? {f : FieldDefinition} (h : t.IsObject members)
    (hread : FieldDefinition.ofTree? levels t = .ok f) :
    ∃ v, valuesUnder members "name" = [v] ∧ v.text? .stored = .ok f.name := by
  simp only [FieldDefinition.ofTree?, bind_eq_ok_iff, pure_eq_ok_iff] at hread
  obtain ⟨slots, hslots, name, hname, label, -, description, -, kind, -, options, -, default, -,
    required, -, dependsOn, -, placeholder, -, rfl⟩ := hread
  obtain ⟨-, hvalues⟩ := (slots?_eq_ok_iff h).mp hslots
  obtain ⟨v, hv, hname⟩ := exists_of_given hname
  refine ⟨v, ?_, hname⟩
  rw [← valuesAt_eq FieldDefinition.position?_keys members, ← hvalues 0, hv, Option.toList_some]

/--
What the entry of an object is read as: the group that its members spell, or a plain field of the name
that is given beside them if they spell none.
-/
inductive FieldEntry.IsReading (levels : Nat) (t : Tree) (members : List (String × Tree)) :
    FieldEntry → Prop
  | group {g : GroupDefinition} (written : g.IsWritten levels members) :
      IsReading levels t members (.group g)
  | field {f : FieldDefinition} {v : Tree} (unwritten : ∀ g, ¬ GroupDefinition.IsWritten levels members g)
      (beside : valuesUnder members "name" = [v]) (named : v.text? .stored = .ok f.name)
      (read : FieldDefinition.ofTree? levels t = .ok f) : IsReading levels t members (.field f)

theorem FieldEntry.ofTree?_eq_ok_iff {e : FieldEntry} (h : t.IsObject members) :
    FieldEntry.ofTree? levels t = .ok e ↔ e.IsReading levels t members := by
  unfold FieldEntry.ofTree?
  cases hgroup : GroupDefinition.ofTree? levels t with
  | ok g =>
    have hwritten := (GroupDefinition.ofTree?_eq_ok_iff h).mp hgroup
    constructor
    · intro he
      cases he
      exact .group hwritten
    · intro he
      cases he with
      | group hother =>
        rw [← GroupDefinition.ofTree?_eq_ok_iff h, hgroup] at hother
        cases hother
        rfl
      | field hnone => exact absurd hwritten (hnone g)
  | error cause =>
    have hnone : ∀ g, ¬ GroupDefinition.IsWritten levels members g := by
      intro g hg
      rw [← GroupDefinition.ofTree?_eq_ok_iff h, hgroup] at hg
      cases hg
    constructor
    · intro he
      obtain ⟨f, hf, rfl⟩ := map_eq_ok_iff.mp he
      obtain ⟨v, hv, hname⟩ := FieldDefinition.name_of_ofTree? h hf
      exact .field hnone hv hname hf
    · intro he
      cases he with
      | group hg => exact absurd hg (hnone _)
      | field _ _ _ hf => exact map_eq_ok_iff.mpr ⟨_, hf, rfl⟩

end Objects

/-! ## Definitions as text -/

/-- How trees of a format are looked at. -/
def DefinitionFormat.reading : DefinitionFormat → Reading
  | yaml => Yaml.reading
  | json => Json.reading

/-- The levels of nesting in a format. -/
def DefinitionFormat.levels : DefinitionFormat → Nat
  | yaml => Yaml.levels
  | json => Json.levels

namespace Definition

variable {format : DefinitionFormat} {bytes : ByteArray} {d : Definition} {t : Tree}

/-- The tree that a text spells. -/
def tree? (format : DefinitionFormat) (bytes : ByteArray) : Option Tree :=
  match format with
  | .yaml => (Yaml.read outline bytes).toOption
  | .json => (Json.read bytes).toOption

/-- The entries of the list of fields in the tree of a definition. -/
def listed? (reading : Reading) (t : Tree) : Option (List Tree) := do
  let slots ← (t.slots? reading keys).toOption
  let list ← slot slots 1
  (list.items? reading).toOption

theorem ofText_eq_ok_iff :
    ofText format bytes = .ok d ↔
      ∃ t, tree? format bytes = some t ∧ ofTree? format.reading format.levels t = .ok d := by
  cases format with
  | json =>
    show ofJsonText bytes = .ok d ↔ ∃ t, (Json.read bytes).toOption = some t ∧ _
    unfold ofJsonText
    cases Json.read bytes with
    | error e => simp [Except.toOption]
    | ok t => simp [Except.toOption, mapError_eq_ok_iff, DefinitionFormat.reading, DefinitionFormat.levels]
  | yaml =>
    show ofYamlText bytes = .ok d ↔ ∃ t, (Yaml.read outline bytes).toOption = some t ∧ _
    unfold ofYamlText
    cases Yaml.read outline bytes with
    | error e => simp [Except.toOption]
    | ok t => simp [Except.toOption, mapError_eq_ok_iff, DefinitionFormat.reading, DefinitionFormat.levels]

/-- The fields of a definition are read from the listed entries, one from each. -/
theorem forall₂_of_ofTree? {reading : Reading} {limit : Nat} {items : List Tree}
    (hitems : listed? reading t = some items) (h : ofTree? reading limit t = .ok d) :
    List.Forall₂ (fun item e => FieldEntry.ofTree? limit item = .ok e) items d.fields := by
  obtain ⟨slots, hslots, hitems⟩ := Option.bind_eq_some_iff.mp hitems
  obtain ⟨list, hlist, hitems⟩ := Option.bind_eq_some_iff.mp hitems
  rw [toOption_eq_some_iff] at hslots hitems
  simp only [ofTree?, bind_eq_ok_iff, pure_eq_ok_iff] at h
  obtain ⟨found, hfound, name, -, fields, hfields, derived, -, documents, -, rfl⟩ := h
  cases hslots.symm.trans hfound
  rw [hlist] at hfields
  obtain ⟨others, hothers, hread⟩ := bind_eq_ok_iff.mp hfields
  cases hitems.symm.trans hothers
  refine (readItems_eq_ok_iff.mp hread).imp fun item e he => ?_
  obtain ⟨_, -, he⟩ := bind_eq_ok_iff.mp he
  exact he

/--
A definition is loaded only if each object in its list of fields is read: as the group that it spells,
or as a plain field if it spells no group and a name stands beside the group's. So an object that spells
no group is never read as a field unless it has a name of its own.
-/
theorem ofText_reads_groups {items : List Tree} (htree : tree? format bytes = some t)
    (hitems : listed? format.reading t = some items) :
    ((∃ cause, ofText format bytes = .error cause) ∨
      ∃ d, ofText format bytes = .ok d ∧
        List.Forall₂ (fun item e => ∀ members, item.IsObject members →
          e.IsReading format.levels item members) items d.fields) ∧
      ∀ item ∈ items, ∀ members, item.IsObject members → valuesUnder members "name" = [] →
        (∀ g, ¬ GroupDefinition.IsWritten format.levels members g) →
          ∃ cause, ofText format bytes = .error cause := by
  cases hload : ofText format bytes with
  | error cause => exact ⟨.inl ⟨cause, rfl⟩, fun _ _ _ _ _ _ => ⟨cause, rfl⟩⟩
  | ok d =>
    obtain ⟨u, hu, hread⟩ := ofText_eq_ok_iff.mp hload
    cases htree.symm.trans hu
    have hfields : List.Forall₂ (fun item e => ∀ members, item.IsObject members →
        e.IsReading format.levels item members) items d.fields :=
      (forall₂_of_ofTree? hitems hread).imp fun item e he members hobject =>
        (FieldEntry.ofTree?_eq_ok_iff hobject).mp he
    refine ⟨.inr ⟨d, rfl, hfields⟩, fun item hitem members hobject hname hnone => ?_⟩
    obtain ⟨e, he⟩ := exists_forall₂_iff.mp ⟨_, hfields⟩ item hitem
    cases he members hobject with
    | group hwritten => exact absurd hwritten (hnone _)
    | field _ hbeside => cases hname.symm.trans hbeside

/-- A group that has a field of an unknown type, and what stands beside its members. -/
def misspelledGroup (beside : List (String × Json)) : List (String × Json) :=
  [("group", .text "spouse"),
    ("fields", .array [.object [("name", .text "first"), ("type", .text "txt")]])] ++ beside

/-- The text of a definition with this group alone. -/
def textOf (group : List (String × Json)) : ByteArray :=
  (Json.object [("name", .text "lease"), ("fields", .array [.object group])]).compact.toUTF8

theorem read_textOf {group : List (String × Json)} (h : (Json.object group).NumberFree) :
    Json.read (textOf group) =
      .ok (ofJson (.object [("name", .text "lease"), ("fields", .array [.object group])])) := by
  refine Json.read_compact ?_
  simp [Json.numberFree_array_iff, Json.numberFree_object_iff, Json.NumberFree.text] at h ⊢
  exact h

theorem numberFree_misspelledGroup {beside : List (String × Json)}
    (h : (Json.object beside).NumberFree) : (Json.object (misspelledGroup beside)).NumberFree := by
  simp [misspelledGroup, Json.numberFree_array_iff, Json.numberFree_object_iff, Json.NumberFree.text]
    at h ⊢
  exact h

theorem misspelledGroup_is_refused :
    ∃ cause, ofText .json (textOf (misspelledGroup [])) = .error cause := by
  have hfree := numberFree_misspelledGroup (Json.numberFree_object_iff.mpr (List.forall_mem_nil _))
  have hread : tree? .json (textOf (misspelledGroup [])) = some _ :=
    congrArg Except.toOption (read_textOf hfree)
  have hlisted : listed? Json.reading (ofJson (.object [("name", .text "lease"),
      ("fields", .array [.object (misspelledGroup [])])])) =
      some [ofJson (.object (misspelledGroup []))] := rfl
  obtain ⟨-, hrefused⟩ := ofText_reads_groups hread hlisted
  refine hrefused _ List.mem_cons_self _ (isObject_ofJson _) rfl fun g hg => ?_
  rw [← GroupDefinition.ofTree?_eq_ok_iff (isObject_ofJson _)] at hg
  cases hg

/-- With a name beside it the same group passes for a plain field, and its members are lost. -/
theorem misspelledGroup_is_read_as_field :
    ofText .json (textOf (misspelledGroup [("name", .text "partner")])) =
      .ok { name := "lease", fields := [.field { name := "partner" }] } := by
  have hname : (Json.object [("name", .text "partner")]).NumberFree := by
    simp [Json.numberFree_object_iff, Json.NumberFree.text]
  have hfree := numberFree_misspelledGroup hname
  rw [ofText, ofJsonText, read_textOf hfree]
  rfl

end Definition

end Paperwork
