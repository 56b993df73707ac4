import Paperwork.Definition.Encode
import Paperwork.Proofs.Tree.Parts

/-!
# What is stored of a definition

The free-form values of a definition are canonical wherever it is read from. Those that may be left
out are not null if the tree is typed, and the body of a derived value has no member called `name`
(`Definition.isStored_of_ofTree?`). What a definition is written as nests no deeper than the tree may
nest that it is read from (`Definition.depth_toJson_le`).
-/

namespace Paperwork

open Paperwork.Tree

variable {reading : Reading} {levels : Nat} {t : Tree}

/-! ## Values -/

/-- A free-form value that is stored where it may be left out. -/
structure Json.IsStored (v : Json) : Prop where
  canonical : v.Canonical
  given : v ≠ .null

def FieldDefinition.IsStored (f : FieldDefinition) : Prop :=
  ∀ v, f.default = some v → v.IsStored

def GroupDefinition.IsStored (g : GroupDefinition) : Prop := ∀ f ∈ g.fields, f.IsStored

def FieldEntry.IsStored : FieldEntry → Prop
  | .group g => g.IsStored
  | .field f => f.IsStored

/-- The body holds what is written beside the name. -/
def DerivedDefinition.IsStored (d : DerivedDefinition) : Prop :=
  ∀ key v, d.body.get? key = some v → key ≠ "name" ∧ v.Canonical

def DocumentDefinition.IsStored (d : DocumentDefinition) : Prop :=
  ∀ v, d.conditions = some v → v.IsStored

/-- All parts of a definition are stored. -/
structure Definition.IsStored (d : Definition) : Prop where
  fields : ∀ e ∈ d.fields, e.IsStored
  derived : ∀ e ∈ d.derived, e.IsStored
  documents : ∀ e ∈ d.documents, e.IsStored

theorem isStored_of_givenOrNone {stored : Reading} {value : Option Tree} {v : Json}
    (hvalue : ∀ part, value = some part → part.IsTyped)
    (h : givenOrNone reading (json? stored levels) value = .ok (some v)) : v.IsStored := by
  obtain ⟨part, hpart, hgiven, hread⟩ := exists_of_givenOrNone h
  exact ⟨canonical_of_json? hread, (hvalue part hpart).ne_null_of_json? hgiven hread⟩

theorem FieldDefinition.isStored_of_ofTree? {f : FieldDefinition} (ht : t.IsTyped)
    (h : FieldDefinition.ofTree? levels t = .ok f) : f.IsStored := by
  simp only [FieldDefinition.ofTree?, bind_eq_ok_iff, pure_eq_ok_iff] at h
  obtain ⟨slots, hslots, name, -, label, -, description, -, kind, -, options, -, default, hdefault,
    required, -, dependsOn, -, placeholder, -, rfl⟩ := h
  rintro v rfl
  exact isStored_of_givenOrNone
    (fun part hpart => isTyped_part ht (isPart_of_slots? hslots hpart)) hdefault

theorem GroupDefinition.isStored_of_ofTree? {g : GroupDefinition} (ht : t.IsTyped)
    (h : GroupDefinition.ofTree? levels t = .ok g) : g.IsStored := by
  simp only [GroupDefinition.ofTree?, bind_eq_ok_iff, pure_eq_ok_iff] at h
  obtain ⟨slots, hslots, group, -, label, -, fields, hfields, rfl⟩ := h
  intro f hf
  obtain ⟨list, hlist, hfields⟩ := exists_of_given hfields
  obtain ⟨item, hitem, hread⟩ := exists_isPart_of_list? hfields f hf
  have hlist : list.IsTyped := isTyped_part ht (isPart_of_slots? hslots hlist)
  exact FieldDefinition.isStored_of_ofTree? (isTyped_part hlist hitem) hread

theorem FieldEntry.isStored_of_ofTree? {e : FieldEntry} (ht : t.IsTyped)
    (h : FieldEntry.ofTree? levels t = .ok e) : e.IsStored := by
  unfold FieldEntry.ofTree? at h
  split at h
  · rename_i g hgroup
    cases h
    exact GroupDefinition.isStored_of_ofTree? ht hgroup
  · obtain ⟨f, hf, rfl⟩ := map_eq_ok_iff.mp h
    exact FieldDefinition.isStored_of_ofTree? ht hf

/-- What holds of values that are read beside the name holds of the body that is collected. -/
theorem DerivedDefinition.get?_body_of_collect {p : String → Json → Prop}
    (hp : ∀ key t v, key ≠ "name" → json? .stored levels t = .ok v → p key v)
    {entries : List (Tree × Tree)} {name : Option String} {body : Dict Json} {d : DerivedDefinition}
    (hbody : ∀ key v, body.get? key = some v → p key v)
    (h : collect reading levels entries name body = .ok d) :
    ∀ key v, d.body.get? key = some v → p key v := by
  induction entries generalizing name body with
  | nil =>
    cases name with
    | none => cases h
    | some name =>
      cases h
      exact hbody
  | cons e rest ih =>
    obtain ⟨k, t⟩ := e
    rw [collect, bind_eq_ok_iff] at h
    obtain ⟨key, -, h⟩ := h
    split at h
    · split at h
      · cases h
      · obtain ⟨s, -, h⟩ := bind_eq_ok_iff.mp h
        exact ih hbody h
    · rename_i hkey
      obtain ⟨value, hvalue, h⟩ := bind_eq_ok_iff.mp h
      refine ih (fun other v hv => ?_) h
      rw [Dict.get?_insert] at hv
      split at hv
      · rename_i heq
        cases hv
        subst heq
        exact hp other t value (fun hname => hkey (beq_iff_eq.mpr hname)) hvalue
      · exact hbody other v hv

theorem DerivedDefinition.get?_body_of_ofTree? {d : DerivedDefinition}
    (h : DerivedDefinition.ofTree? reading levels t = .ok d) {key : String} {v : Json}
    (hv : d.body.get? key = some v) : key ≠ "name" ∧ v.Canonical ∧ v.depth ≤ levels := by
  have hread : ∀ key t v, key ≠ "name" → json? .stored levels t = .ok v →
      key ≠ "name" ∧ v.Canonical ∧ v.depth ≤ levels := fun key t v hkey hjson =>
    ⟨hkey, canonical_of_json? hjson, depth_le_of_json? hjson⟩
  unfold DerivedDefinition.ofTree? at h
  split at h
  · exact get?_body_of_collect hread (fun key v hv => by cases hv) h key v hv
  · exact get?_body_of_collect hread (fun key v hv => by cases hv) h key v hv
  · cases h

theorem DocumentDefinition.isStored_of_ofTree? {d : DocumentDefinition} (ht : t.IsTyped)
    (h : DocumentDefinition.ofTree? reading levels t = .ok d) : d.IsStored := by
  simp only [DocumentDefinition.ofTree?, bind_eq_ok_iff, pure_eq_ok_iff] at h
  obtain ⟨slots, hslots, name, -, outFile, -, conditions, hconditions, rfl⟩ := h
  rintro v rfl
  exact isStored_of_givenOrNone
    (fun part hpart => isTyped_part ht (isPart_of_slots? hslots hpart)) hconditions

theorem Definition.isStored_of_ofTree? {d : Definition} (ht : t.IsTyped)
    (h : Definition.ofTree? reading levels t = .ok d) : d.IsStored := by
  simp only [Definition.ofTree?, bind_eq_ok_iff, pure_eq_ok_iff] at h
  obtain ⟨slots, hslots, name, -, fields, hfields, derived, hderived, documents, hdocuments,
    rfl⟩ := h
  have hpart : ∀ {i list item}, slot slots i = some list → IsPart item list → item.IsTyped :=
    fun hlist hitem => isTyped_part (isTyped_part ht (isPart_of_slots? hslots hlist)) hitem
  constructor
  · intro e he
    obtain ⟨list, hlist, item, hitem, hread⟩ := exists_of_givenOr_list? hfields e he
    obtain ⟨_, -, hread⟩ := bind_eq_ok_iff.mp hread
    exact FieldEntry.isStored_of_ofTree? (hpart hlist hitem) hread
  · intro e he key v hv
    obtain ⟨list, hlist, item, hitem, hread⟩ := exists_of_givenOr_list? hderived e he
    obtain ⟨hname, hcanonical, -⟩ := DerivedDefinition.get?_body_of_ofTree? hread hv
    exact ⟨hname, hcanonical⟩
  · intro e he
    obtain ⟨list, hlist, item, hitem, hread⟩ := exists_of_givenOr_list? hdocuments e he
    exact DocumentDefinition.isStored_of_ofTree? (hpart hlist hitem) hread

/-! ## Levels -/

theorem depth_optionalMember_le_iff {α : Type} {name : String} {write : α → Json}
    {value : Option α} {n : Nat} :
    (∀ m ∈ optionalMember name write value, m.2.depth ≤ n) ↔
      ∀ a, value = some a → (write a).depth ≤ n := by
  cases value <;> simp [optionalMember]

theorem Json.depth_text (s : String) : (Json.text s).depth = 0 := rfl

theorem Json.depth_bool (b : Bool) : (Json.bool b).depth = 0 := rfl

theorem Json.depth_texts_le (texts : List String) : (Json.texts texts).depth ≤ 1 :=
  depth_array_le fun v hv => by
    obtain ⟨s, -, rfl⟩ := List.mem_map.mp hv
    exact Nat.le_refl 0

theorem FieldDefinition.depth_toJson_le {f : FieldDefinition} {n : Nat} (ht : t.sound n)
    (h : FieldDefinition.ofTree? levels t = .ok f) : f.toJson.depth ≤ n := by
  simp only [FieldDefinition.ofTree?, bind_eq_ok_iff, pure_eq_ok_iff] at h
  obtain ⟨slots, hslots, name, -, label, -, description, -, kind, -, options, hoptions, default,
    hdefault, required, -, dependsOn, -, placeholder, -, rfl⟩ := h
  obtain ⟨n, rfl⟩ := exists_eq_succ_of_slots? ht hslots
  have hsound : ∀ {i part}, slot slots i = some part → part.sound n := fun hpart =>
    sound_part ht (isPart_of_slots? hslots hpart)
  have hlist : ∀ texts, options = some texts → (Json.texts texts).depth ≤ n := by
    rintro texts rfl
    obtain ⟨part, hpart, -, hread⟩ := exists_of_givenOrNone hoptions
    obtain ⟨n, rfl⟩ := exists_eq_succ_of_list? (hsound hpart) hread
    exact Nat.le_trans (Json.depth_texts_le texts) (Nat.succ_le_succ (Nat.zero_le n))
  have hvalue : ∀ v, default = some v → v.depth ≤ n := by
    rintro v rfl
    obtain ⟨part, hpart, -, hread⟩ := exists_of_givenOrNone hdefault
    exact depth_le_of_sound (hsound hpart) hread
  refine Json.depth_objectOf_le ?_
  simp only [List.forall_mem_append, depth_optionalMember_le_iff, List.forall_mem_singleton,
    Json.depth_text, Json.depth_bool, Nat.zero_le, implies_true, true_and, and_true]
  exact ⟨hlist, hvalue⟩

theorem GroupDefinition.depth_toJson_le {g : GroupDefinition} {n : Nat} (ht : t.sound n)
    (h : GroupDefinition.ofTree? levels t = .ok g) : g.toJson.depth ≤ n := by
  simp only [GroupDefinition.ofTree?, bind_eq_ok_iff, pure_eq_ok_iff] at h
  obtain ⟨slots, hslots, group, -, label, -, fields, hfields, rfl⟩ := h
  obtain ⟨list, hlist, hfields⟩ := exists_of_given hfields
  obtain ⟨n, rfl⟩ := exists_eq_succ_of_slots? ht hslots
  have hsound : list.sound n := sound_part ht (isPart_of_slots? hslots hlist)
  obtain ⟨n, rfl⟩ := exists_eq_succ_of_list? hsound hfields
  have hitems : (Json.array (fields.map FieldDefinition.toJson)).depth ≤ n + 1 := by
    refine Json.depth_array_le (List.forall_mem_map.mpr fun f hf => ?_)
    obtain ⟨item, hitem, hread⟩ := exists_isPart_of_list? hfields f hf
    exact FieldDefinition.depth_toJson_le (sound_part hsound hitem) hread
  refine Json.depth_objectOf_le ?_
  simp only [List.forall_mem_append, depth_optionalMember_le_iff, List.forall_mem_singleton,
    Json.depth_text, Nat.zero_le, implies_true, true_and]
  exact hitems

theorem FieldEntry.depth_toJson_le {e : FieldEntry} {n : Nat} (ht : t.sound n)
    (h : FieldEntry.ofTree? levels t = .ok e) : e.toJson.depth ≤ n := by
  unfold FieldEntry.ofTree? at h
  split at h
  · rename_i g hgroup
    cases h
    exact GroupDefinition.depth_toJson_le ht hgroup
  · obtain ⟨f, hf, rfl⟩ := map_eq_ok_iff.mp h
    exact FieldDefinition.depth_toJson_le ht hf

theorem DerivedDefinition.depth_toJson_le {d : DerivedDefinition}
    (h : DerivedDefinition.ofTree? reading levels t = .ok d) : d.toJson.depth ≤ levels + 1 := by
  refine Json.depth_objectOf_le (List.forall_mem_cons.mpr ⟨Nat.zero_le levels, fun m hm => ?_⟩)
  obtain ⟨-, -, hdepth⟩ := get?_body_of_ofTree? h (Dict.mem_toList_iff.mp hm)
  exact hdepth

theorem DocumentDefinition.depth_toJson_le {d : DocumentDefinition}
    (h : DocumentDefinition.ofTree? reading levels t = .ok d) : d.toJson.depth ≤ levels + 1 := by
  simp only [DocumentDefinition.ofTree?, bind_eq_ok_iff, pure_eq_ok_iff] at h
  obtain ⟨slots, hslots, name, -, outFile, -, conditions, hconditions, rfl⟩ := h
  have hvalue : ∀ v, conditions = some v → v.depth ≤ levels := by
    rintro v rfl
    obtain ⟨part, -, -, hread⟩ := exists_of_givenOrNone hconditions
    exact depth_le_of_json? hread
  refine Json.depth_objectOf_le ?_
  simp only [List.forall_mem_append, depth_optionalMember_le_iff, List.forall_mem_cons,
    Json.depth_text, Nat.zero_le, List.not_mem_nil, false_imp_iff, implies_true, true_and]
  exact hvalue

/-- What is read within a number of levels is written within them. -/
theorem Definition.depth_toJson_le {d : Definition}
    (h : Definition.ofTree? reading (levels + 3) t = .ok d) : d.toJson.depth ≤ levels + 3 := by
  simp only [Definition.ofTree?, bind_eq_ok_iff, pure_eq_ok_iff] at h
  obtain ⟨slots, -, name, -, fields, hfields, derived, hderived, documents, hdocuments, rfl⟩ := h
  have hfields : (Json.array (fields.map FieldEntry.toJson)).depth ≤ levels + 2 := by
    refine Json.depth_array_le (List.forall_mem_map.mpr fun e he => ?_)
    obtain ⟨_, -, item, -, hread⟩ := exists_of_givenOr_list? hfields e he
    obtain ⟨_, hsound, hread⟩ := bind_eq_ok_iff.mp hread
    exact FieldEntry.depth_toJson_le (requireSound_eq_ok_iff.mp hsound) hread
  have hderived : (Json.array (derived.map DerivedDefinition.toJson)).depth ≤ levels + 2 := by
    refine Json.depth_array_le (List.forall_mem_map.mpr fun e he => ?_)
    obtain ⟨_, -, item, -, hread⟩ := exists_of_givenOr_list? hderived e he
    exact DerivedDefinition.depth_toJson_le hread
  have hdocuments : (Json.array (documents.map DocumentDefinition.toJson)).depth ≤ levels + 2 := by
    refine Json.depth_array_le (List.forall_mem_map.mpr fun e he => ?_)
    obtain ⟨_, -, item, -, hread⟩ := exists_of_givenOr_list? hdocuments e he
    exact DocumentDefinition.depth_toJson_le hread
  refine Json.depth_objectOf_le ?_
  simp only [List.forall_mem_cons, Json.depth_text, Nat.zero_le, List.not_mem_nil, false_imp_iff,
    implies_true, true_and, and_true]
  exact ⟨hfields, hderived, hdocuments⟩

end Paperwork
