import Paperwork.Definition.Source
import Paperwork.Proofs.Definition.Stored
import Paperwork.Proofs.Json.ReadBack
import Paperwork.Proofs.Json.Typed
import Paperwork.Proofs.Tree.Records
import Paperwork.Template.Build

/-!
# Definitions are read as they were written

What a definition is written as is read as the same definition (`Definition.ofTree?_toJson`). A
field has no member that a group is told by, so no entry changes sides; a derived value shares its
object with its body, which has no member called like its name. Together with what is stored of a
definition that was read, this makes reading and writing stable (`Definition.decoded_is_read_back`).
-/

namespace Paperwork

open Paperwork.Tree

variable {reading : Reading} {levels : Nat}

/-! ## Members -/

section Members

variable {α : Type} (name : String) (write : α → Json) (value : Option α)

theorem map_fst_optionalMember_subset {names : List String} (h : name ∈ names) :
    (optionalMember name write value).map (·.1) ⊆ names := by
  cases value with
  | none => exact List.nil_subset names
  | some a => simpa [optionalMember] using h

theorem get?_ofList_optionalMember (k : String) :
    (Dict.ofList (optionalMember name write value)).get? k =
      if k = name then value.map write else none := by
  cases value with
  | none => simp [optionalMember, Dict.ofList]
  | some a => exact Dict.get?_ofList_singleton name (write a) k

end Members

theorem given_text (name s : String) :
    given name (text? reading) ((some (Json.text s)).map ofJson) = .ok s := text?_text reading s

theorem givenOrNone_text (value : Option String) :
    givenOrNone reading (text? reading) ((value.map Json.text).map ofJson) = .ok value :=
  givenOrNone_map fun s _ => ⟨by simp, text?_text reading s⟩

/-- A free-form value that is stored is read back, however it is stored. -/
theorem givenOrNone_json {stored : Reading} {value : Option Json}
    (hvalue : ∀ v, value = some v → v.IsStored ∧ v.depth ≤ levels) :
    givenOrNone reading (json? stored levels) ((value.map id).map ofJson) = .ok value :=
  givenOrNone_map fun v hv => by
    obtain ⟨hstored, hdepth⟩ := hvalue v hv
    exact ⟨hstored.given, json?_ofJson hstored.canonical hdepth⟩

/-- Items of a list under a key stand two levels deeper than the whole. -/
theorem depth_le_of_member? {α : Type} {v : Json} {key : String} {write : α → Json} {items : List α}
    (h : v.member? key = some (.array (items.map write))) {a : α} (ha : a ∈ items) :
    (write a).depth + 2 ≤ v.depth := by
  have hlist := Json.depth_lt_of_member? h
  have hitem := Json.depth_lt_of_mem (List.mem_map_of_mem (f := write) ha)
  omega

/-! ## Fields and groups -/

theorem FieldKind.ofTree?_name (kind : FieldKind) :
    FieldKind.ofTree? (ofJson (.text kind.name)) = .ok kind := by
  cases kind <;> rfl

theorem list?_texts (texts : List String) :
    list? reading (text? reading) (ofJson (Json.texts texts)) = .ok texts :=
  list?_ofJson fun s _ => text?_text reading s

/-- The names under which the parts of a field are written. -/
def FieldDefinition.names : List String :=
  ["name", "label", "description", "type", "options", "default", "required", "dependsOn",
    "placeholder"]

/-- A field has its members under the names of its parts, and none else. -/
theorem FieldDefinition.slots?_toJson (f : FieldDefinition) (reading : Reading)
    {fields : List FieldNames} {names : List String} (hapart : NameApart fields names)
    (hnames : FieldDefinition.names ⊆ names) :
    ∃ slots, (ofJson f.toJson).slots? reading fields = .ok slots ∧
      ∀ name ∈ names, ∀ i, position? fields name = some i →
        slot slots i = (f.toJson.member? name).map ofJson := by
  refine slots?_objectOf hapart (List.Subset.trans ?_ hnames)
  simp only [List.map_append, List.append_subset]
  simp [FieldDefinition.names, map_fst_optionalMember_subset]

theorem FieldDefinition.member?_toJson (f : FieldDefinition) :
    f.toJson.member? "name" = some (.text f.name) ∧
      f.toJson.member? "label" = f.label.map .text ∧
      f.toJson.member? "description" = f.description.map .text ∧
      f.toJson.member? "type" = some (.text f.kind.name) ∧
      f.toJson.member? "options" = f.options.map Json.texts ∧
      f.toJson.member? "default" = f.default.map id ∧
      f.toJson.member? "required" = some (.bool f.required) ∧
      f.toJson.member? "dependsOn" = f.dependsOn.map .text ∧
      f.toJson.member? "placeholder" = f.placeholder.map .text ∧
      f.toJson.member? "group" = none := by
  simp only [toJson, Json.member?_objectOf_eq, Dict.get?_ofList_append, Dict.get?_ofList_singleton,
    get?_ofList_optionalMember, String.reduceEq, if_true, if_false, Option.or_none, Option.none_or,
    and_self]

theorem FieldDefinition.ofTree?_toJson {f : FieldDefinition} (hf : f.IsStored)
    (hdepth : f.toJson.depth ≤ levels) :
    FieldDefinition.ofTree? levels (ofJson f.toJson) = .ok f := by
  have hapart : NameApart keys names := by decide
  obtain ⟨slots, hslots, hslot⟩ := f.slots?_toJson .stored hapart (List.Subset.refl names)
  obtain ⟨hname, hlabel, hdescription, hkind, hoptions, hdefault, hrequired, hdependsOn,
    hplaceholder, -⟩ := f.member?_toJson
  have hvalue : ∀ v, f.default = some v → v.IsStored ∧ v.depth ≤ levels := by
    intro v hv
    rw [hv] at hdefault
    have hlt : v.depth < f.toJson.depth := Json.depth_lt_of_member? hdefault
    exact ⟨hf v hv, by omega⟩
  simp only [FieldDefinition.ofTree?, bind_eq_ok_iff, pure_eq_ok_iff]
  refine ⟨slots, hslots, f.name, ?_, f.label, ?_, f.description, ?_, f.kind, ?_, f.options, ?_,
    f.default, ?_, f.required, ?_, f.dependsOn, ?_, f.placeholder, ?_, rfl⟩
  · rw [hslot "name" (by decide) 0 rfl, hname]
    exact given_text _ f.name
  · rw [hslot "label" (by decide) 1 rfl, hlabel]
    exact givenOrNone_text f.label
  · rw [hslot "description" (by decide) 2 rfl, hdescription]
    exact givenOrNone_text f.description
  · rw [hslot "type" (by decide) 3 rfl, hkind]
    exact FieldKind.ofTree?_name f.kind
  · rw [hslot "options" (by decide) 4 rfl, hoptions]
    exact givenOrNone_map fun texts _ => ⟨by simp [Json.texts], list?_texts texts⟩
  · rw [hslot "default" (by decide) 5 rfl, hdefault]
    exact givenOrNone_json hvalue
  · rw [hslot "required" (by decide) 6 rfl, hrequired]
    rfl
  · rw [hslot "dependsOn" (by decide) 7 rfl, hdependsOn]
    exact givenOrNone_text f.dependsOn
  · rw [hslot "placeholder" (by decide) 8 rfl, hplaceholder]
    exact givenOrNone_text f.placeholder

/-- A field is never taken for a group: the name of a group is not among its members. -/
theorem GroupDefinition.ofTree?_field (f : FieldDefinition) :
    GroupDefinition.ofTree? levels (ofJson f.toJson) = .error (.missing "group") := by
  have hapart : NameApart keys ("group" :: FieldDefinition.names) := by decide
  obtain ⟨slots, hslots, hslot⟩ := f.slots?_toJson .stored hapart (List.subset_cons_self _ _)
  obtain ⟨-, -, -, -, -, -, -, -, -, hgroup⟩ := f.member?_toJson
  have hnone : slot slots 0 = none := by
    rw [hslot "group" (by decide) 0 rfl, hgroup]
    rfl
  rw [GroupDefinition.ofTree?, hslots]
  show (given "group" (text? .stored) (slot slots 0) >>= _) = _
  rw [hnone]
  rfl

theorem GroupDefinition.slots?_toJson (g : GroupDefinition) (reading : Reading) :
    ∃ slots, (ofJson g.toJson).slots? reading keys = .ok slots ∧
      ∀ name ∈ ["group", "label", "fields"], ∀ i, position? keys name = some i →
        slot slots i = (g.toJson.member? name).map ofJson := by
  refine slots?_objectOf (by decide) ?_
  simp only [List.map_append, List.append_subset]
  simp [map_fst_optionalMember_subset]

theorem GroupDefinition.member?_toJson (g : GroupDefinition) :
    g.toJson.member? "group" = some (.text g.group) ∧
      g.toJson.member? "label" = g.label.map .text ∧
      g.toJson.member? "fields" = some (.array (g.fields.map FieldDefinition.toJson)) := by
  simp only [toJson, Json.member?_objectOf_eq, Dict.get?_ofList_append, Dict.get?_ofList_singleton,
    get?_ofList_optionalMember, String.reduceEq, if_true, if_false, Option.or_none, Option.none_or,
    and_self]

theorem GroupDefinition.ofTree?_toJson {g : GroupDefinition} (hg : g.IsStored)
    (hdepth : g.toJson.depth ≤ levels) :
    GroupDefinition.ofTree? levels (ofJson g.toJson) = .ok g := by
  obtain ⟨slots, hslots, hslot⟩ := g.slots?_toJson .stored
  obtain ⟨hgroup, hlabel, hfields⟩ := g.member?_toJson
  simp only [GroupDefinition.ofTree?, bind_eq_ok_iff, pure_eq_ok_iff]
  refine ⟨slots, hslots, g.group, ?_, g.label, ?_, g.fields, ?_, rfl⟩
  · rw [hslot "group" (by decide) 0 rfl, hgroup]
    exact given_text _ g.group
  · rw [hslot "label" (by decide) 1 rfl, hlabel]
    exact givenOrNone_text g.label
  · rw [hslot "fields" (by decide) 2 rfl, hfields]
    refine list?_ofJson fun f hf => FieldDefinition.ofTree?_toJson (hg f hf) ?_
    have hfield := depth_le_of_member? hfields hf
    omega

theorem FieldEntry.ofTree?_toJson {e : FieldEntry} (he : e.IsStored)
    (hdepth : e.toJson.depth ≤ levels) : FieldEntry.ofTree? levels (ofJson e.toJson) = .ok e := by
  cases e with
  | group g =>
    rw [FieldEntry.ofTree?, toJson, GroupDefinition.ofTree?_toJson he hdepth]
  | field f =>
    rw [FieldEntry.ofTree?, toJson, GroupDefinition.ofTree?_field,
      FieldDefinition.ofTree?_toJson he hdepth]
    rfl

/-! ## Derived values -/

section Collecting

variable {members : List (String × Json)} {name : Option String} {rest : List (Tree × Tree)}

theorem DerivedDefinition.collect_name (s : String) (body : Dict Json) :
    collect reading levels ((text "name", text s) :: rest) none body =
      collect reading levels rest (some s) body := by
  rw [collect, text?_text]
  show (text? reading (text s) >>= fun s => collect reading levels rest (some s) body) = _
  rw [text?_text]
  rfl

theorem DerivedDefinition.collect_value {key : String} {t : Tree} {v : Json} (body : Dict Json)
    (hkey : key ≠ "name") (hread : json? .stored levels t = .ok v) :
    collect reading levels ((text key, t) :: rest) name body =
      collect reading levels rest name (body.insert key v) := by
  have hother : (key == "name") = false := beq_eq_false_iff_ne.mpr hkey
  rw [collect, text?_text]
  simp only [bind, Except.bind, hother, hread, Bool.false_eq_true, if_false]

/-- What is collected from members: the name among them, and the others as they are. -/
theorem DerivedDefinition.collect_ofJsonMembers (reading : Reading) (body : Dict Json) {s : String}
    (hdistinct : (members.map (·.1)).Nodup)
    (hname : name = none ∧ Json.memberIn? members "name" = some (.text s) ∨
      name = some s ∧ "name" ∉ members.map (·.1))
    (hvalues : ∀ m ∈ members, m.1 ≠ "name" → m.2.Canonical ∧ m.2.depth ≤ levels) :
    ∃ d, collect reading levels (ofJsonMembers members) name body = .ok d ∧ d.name = s ∧
      ∀ key, d.body.get? key =
        if key = "name" then body.get? key
        else (Json.memberIn? members key).or (body.get? key) := by
  induction members generalizing name body with
  | nil =>
    obtain ⟨-, hnone⟩ | ⟨rfl, -⟩ := hname
    · cases hnone
    · exact ⟨⟨s, body⟩, rfl, rfl, fun key => by simp [Json.memberIn?]⟩
  | cons m rest ih =>
    obtain ⟨k, v⟩ := m
    rw [List.map_cons, List.nodup_cons] at hdistinct
    obtain ⟨hv, hothers⟩ := List.forall_mem_cons.mp hvalues
    rw [ofJsonMembers]
    by_cases hk : k = "name"
    · subst hk
      obtain ⟨rfl, hgiven⟩ | ⟨-, hnot⟩ := hname
      · rw [Json.memberIn?_cons, if_pos rfl, Option.some.injEq] at hgiven
        subst hgiven
        obtain ⟨d, hd, hs, hbody⟩ := ih body hdistinct.2 (.inr ⟨rfl, hdistinct.1⟩) hothers
        refine ⟨d, (collect_name s body).trans hd, hs, fun key => ?_⟩
        rw [hbody, Json.memberIn?_cons]
        split <;> rfl
      · exact absurd List.mem_cons_self hnot
    · have hrest : name = none ∧ Json.memberIn? rest "name" = some (.text s) ∨
          name = some s ∧ "name" ∉ rest.map (·.1) := by
        rw [Json.memberIn?_cons, if_neg (Ne.symm hk), List.map_cons, List.mem_cons, not_or] at hname
        exact hname.imp_right fun h => ⟨h.1, h.2.2⟩
      have hread : json? .stored levels (ofJson v) = .ok v :=
        json?_ofJson (hv hk).1 (hv hk).2
      obtain ⟨d, hd, hs, hbody⟩ := ih (body.insert k v) hdistinct.2 hrest hothers
      refine ⟨d, (collect_value body hk hread).trans hd, hs, fun key => ?_⟩
      rw [hbody, Json.memberIn?_cons, Dict.get?_insert]
      by_cases hkey : key = k
      · simp [hkey, hk, Json.memberIn?_eq_none hdistinct.1]
      · simp [hkey]

end Collecting

theorem DerivedDefinition.member?_toJson (d : DerivedDefinition) (key : String) :
    d.toJson.member? key =
      (d.body.get? key).or (if key = "name" then some (.text d.name) else none) := by
  rw [toJson, Json.member?_objectOf_eq, ← List.singleton_append, Dict.get?_ofList_append,
    Dict.ofList_toList, Dict.get?_ofList_singleton]

theorem DerivedDefinition.ofTree?_toJson {d : DerivedDefinition} (hd : d.IsStored)
    (hdepth : d.toJson.depth ≤ levels + 1) :
    DerivedDefinition.ofTree? reading levels (ofJson d.toJson) = .ok d := by
  have hmember := d.member?_toJson
  obtain ⟨stored, hstored⟩ : ∃ stored : Dict Json, d.toJson = .object stored.toList :=
    ⟨_, Json.objectOf_eq _⟩
  simp only [hstored, Json.member?_toList] at hdepth hmember ⊢
  have hbody : d.body.get? "name" = none := by
    cases hvalue : d.body.get? "name" with
    | none => rfl
    | some v => exact absurd rfl (hd "name" v hvalue).1
  have hname : Json.memberIn? stored.toList "name" = some (.text d.name) := by
    refine (Json.member?_toList stored "name").trans ?_
    rw [hmember, hbody]
    rfl
  have hvalues : ∀ m ∈ stored.toList, m.1 ≠ "name" → m.2.Canonical ∧ m.2.depth ≤ levels := by
    intro m hm hne
    have hvalue : stored.get? m.1 = some m.2 := Dict.mem_toList_iff.mp hm
    rw [hmember, if_neg hne, Option.or_none] at hvalue
    have hlt := Json.depth_lt_of_mem_members hm
    exact ⟨(hd m.1 m.2 hvalue).2, by omega⟩
  obtain ⟨again, hagain, hnames, hlookup⟩ :=
    collect_ofJsonMembers reading .empty stored.nodup_keys (.inl ⟨rfl, hname⟩) hvalues
  have hbodies : again.body = d.body := by
    refine Dict.ext_get? fun key => ?_
    rw [hlookup, Dict.get?_empty, Option.or_none]
    split
    · rename_i hkey
      rw [hkey, hbody]
    · rename_i hkey
      refine (Json.member?_toList stored key).trans ?_
      rw [hmember, if_neg hkey, Option.or_none]
  refine hagain.trans ?_
  obtain ⟨name, body⟩ := d
  obtain ⟨again, body'⟩ := again
  dsimp only at hnames hbodies
  rw [hnames, hbodies]

/-! ## Documents and definitions -/

theorem DocumentDefinition.slots?_toJson (d : DocumentDefinition) (reading : Reading) :
    ∃ slots, (ofJson d.toJson).slots? reading keys = .ok slots ∧
      ∀ name ∈ ["name", "outFile", "conditions"], ∀ i, position? keys name = some i →
        slot slots i = (d.toJson.member? name).map ofJson := by
  refine slots?_objectOf (by decide) ?_
  simp only [List.map_append, List.append_subset]
  simp [map_fst_optionalMember_subset]

theorem DocumentDefinition.member?_toJson (d : DocumentDefinition) :
    d.toJson.member? "name" = some (.text d.name) ∧
      d.toJson.member? "outFile" = some (.text d.outFile) ∧
      d.toJson.member? "conditions" = d.conditions.map id := by
  have hgiven : ∀ k,
      (Dict.ofList [("name", Json.text d.name), ("outFile", .text d.outFile)]).get? k =
        entryAt k [("name", .text d.name), ("outFile", .text d.outFile)] :=
    Dict.get?_ofList (by simp)
  simp only [toJson, Json.member?_objectOf_eq, Dict.get?_ofList_append, hgiven, entryAt,
    get?_ofList_optionalMember, String.reduceEq, if_true, if_false, Option.or_none, Option.none_or,
    and_self]

theorem DocumentDefinition.ofTree?_toJson {d : DocumentDefinition} (hd : d.IsStored)
    (hdepth : d.toJson.depth ≤ levels + 1) :
    DocumentDefinition.ofTree? reading levels (ofJson d.toJson) = .ok d := by
  obtain ⟨slots, hslots, hslot⟩ := d.slots?_toJson reading
  obtain ⟨hname, houtFile, hconditions⟩ := d.member?_toJson
  have hvalue : ∀ v, d.conditions = some v → v.IsStored ∧ v.depth ≤ levels := by
    intro v hv
    rw [hv] at hconditions
    have hlt : v.depth < d.toJson.depth := Json.depth_lt_of_member? hconditions
    exact ⟨hd v hv, by omega⟩
  simp only [DocumentDefinition.ofTree?, bind_eq_ok_iff, pure_eq_ok_iff]
  refine ⟨slots, hslots, d.name, ?_, d.outFile, ?_, d.conditions, ?_, rfl⟩
  · rw [hslot "name" (by decide) 0 rfl, hname]
    exact given_text _ d.name
  · rw [hslot "outFile" (by decide) 1 rfl, houtFile]
    exact given_text _ d.outFile
  · rw [hslot "conditions" (by decide) 2 rfl, hconditions]
    exact givenOrNone_json hvalue

theorem Definition.slots?_toJson (d : Definition) (reading : Reading) :
    ∃ slots, (ofJson d.toJson).slots? reading keys = .ok slots ∧
      ∀ name ∈ ["name", "fields", "derived", "documents"], ∀ i, position? keys name = some i →
        slot slots i = (d.toJson.member? name).map ofJson :=
  slots?_objectOf (by decide) (List.Subset.refl _)

theorem Definition.member?_toJson (d : Definition) :
    d.toJson.member? "name" = some (.text d.name) ∧
      d.toJson.member? "fields" = some (.array (d.fields.map FieldEntry.toJson)) ∧
      d.toJson.member? "derived" = some (.array (d.derived.map DerivedDefinition.toJson)) ∧
      d.toJson.member? "documents" = some (.array (d.documents.map DocumentDefinition.toJson)) := by
  have hmember : ∀ k, d.toJson.member? k = entryAt k _ := Json.member?_objectOf (by simp)
  simp only [hmember, entryAt, String.reduceEq, if_true, if_false, and_self]

/-- A definition that is stored is read as it was written, given levels enough for its nesting. -/
theorem Definition.ofTree?_toJson {d : Definition} (hd : d.IsStored)
    (hdepth : d.toJson.depth ≤ levels) :
    Definition.ofTree? reading levels (ofJson d.toJson) = .ok d := by
  obtain ⟨slots, hslots, hslot⟩ := d.slots?_toJson reading
  obtain ⟨hname, hfields, hderived, hdocuments⟩ := d.member?_toJson
  simp only [Definition.ofTree?, bind_eq_ok_iff, pure_eq_ok_iff]
  refine ⟨slots, hslots, d.name, ?_, d.fields, ?_, d.derived, ?_, d.documents, ?_, rfl⟩
  · rw [hslot "name" (by decide) 0 rfl, hname]
    exact given_text _ d.name
  · rw [hslot "fields" (by decide) 1 rfl, hfields]
    refine list?_ofJson fun e he => ?_
    have hentry := depth_le_of_member? hfields he
    have hsound : (ofJson e.toJson).sound (levels - 2) := sound_ofJson (by omega)
    exact bind_eq_ok_iff.mpr ⟨(), requireSound_eq_ok_iff.mpr hsound,
      FieldEntry.ofTree?_toJson (hd.fields e he) (by omega)⟩
  · rw [hslot "derived" (by decide) 2 rfl, hderived]
    refine list?_ofJson fun e he => DerivedDefinition.ofTree?_toJson (hd.derived e he) ?_
    have hentry := depth_le_of_member? hderived he
    omega
  · rw [hslot "documents" (by decide) 3 rfl, hdocuments]
    refine list?_ofJson fun e he => DocumentDefinition.ofTree?_toJson (hd.documents e he) ?_
    have hentry := depth_le_of_member? hdocuments he
    omega

/--
A definition that is read from a JSON text is read again, as it is, from the value that it is
written as. So the template that is made of it is the same one, or fails for the same reason.
Reading a value needs levels enough for its nesting, and the levels of a text are enough.
-/
theorem Definition.decoded_is_read_back {bytes : ByteArray} {d : Definition}
    (h : Definition.ofText .json bytes = .ok d) :
    d.toJson.depth ≤ Json.levels ∧
      ∀ (reading : Reading) (levels : Nat), d.toJson.depth ≤ levels →
        Definition.ofTree? reading levels (ofJson d.toJson) = .ok d ∧
          (Definition.ofTree? reading levels (ofJson d.toJson)).map Template.ofDefinition =
            .ok (Template.ofDefinition d) := by
  obtain ⟨t, htree, hread⟩ : ∃ t, Json.read bytes = .ok t ∧
      Definition.ofTree? Json.reading Json.levels t = .ok d := by
    rw [ofText, ofJsonText] at h
    split at h
    · cases h
    · rename_i t htree
      exact ⟨t, htree, mapError_eq_ok_iff.mp h⟩
  have hstored : d.IsStored := isStored_of_ofTree? (Json.isTyped_of_read htree) hread
  refine ⟨depth_toJson_le hread, fun reading levels hlevels => ?_⟩
  have hagain : Definition.ofTree? reading levels (ofJson d.toJson) = .ok d :=
    ofTree?_toJson hstored hlevels
  exact ⟨hagain, by rw [hagain]; rfl⟩

/-! ## A definition in many spellings -/

/--
Entries by name and by position, a field beside the name of a group that is none, both spellings of
keys, keys that are passed over, and members that are null.
-/
def mixedJson : Json :=
  .object [("name", .text "letter"), ("remark", .array [.null]),
    ("fields", .array [
      .object [("name", .text "client"), ("label", .null), ("depends_on", .text "copy"),
        ("type", .object [("longText", .null)]),
        ("default", .object [("b", .null), ("a", .text "")])],
      .object [("group", .text "sender"), ("name", .text "nobody"),
        ("fields", .array [.array [.text "city", .text "City"]])],
      .object [("name", .text "copy"), ("group", .null), ("type", .text "boolean"),
        ("default", .null)]]),
    ("derived", .array [
      .object [("arg", .text "a"), ("name", .text "head"), ("op", .text "upper"), ("hint", .null)],
      .object [("expression", .text "b"), ("name", .text "foot")]]),
    ("documents", .array [
      .object [("out_file", .text "head"), ("name", .text "offer"), ("conditions", .null)],
      .array [.text "bill", .text "foot", .bool false]])]

/-- What the definition is written as. -/
def plainJson : Json :=
  .object [
    ("derived", .array [
      .object [("arg", .text "a"), ("hint", .null), ("name", .text "head"), ("op", .text "upper")],
      .object [("expression", .text "b"), ("name", .text "foot")]]),
    ("documents", .array [
      .object [("name", .text "offer"), ("outFile", .text "head")],
      .object [("conditions", .bool false), ("name", .text "bill"), ("outFile", .text "foot")]]),
    ("fields", .array [
      .object [("default", .object [("a", .text ""), ("b", .null)]), ("dependsOn", .text "copy"),
        ("name", .text "client"), ("required", .bool true), ("type", .text "longText")],
      .object [("fields", .array [.object [("label", .text "City"), ("name", .text "city"),
        ("required", .bool true), ("type", .text "string")]]), ("group", .text "sender")],
      .object [("name", .text "copy"), ("required", .bool true), ("type", .text "boolean")]]),
    ("name", .text "letter")]

theorem numberFree_mixedJson : mixedJson.NumberFree := by
  simp [mixedJson, Json.numberFree_array_iff, Json.numberFree_object_iff, Json.NumberFree.null,
    Json.NumberFree.bool, Json.NumberFree.text]

theorem Definition.mixed_is_read_back : ∃ d,
    Definition.ofText .json mixedJson.compact.toUTF8 = .ok d ∧ d.toJson = plainJson ∧
      Definition.ofTree? Json.reading Json.levels (ofJson plainJson) = .ok d := by
  have htree := Json.read_compact numberFree_mixedJson
  have hwritten : ((Definition.ofTree? Json.reading Json.levels (ofJson mixedJson)).mapError
      (SourceError.json ·.message)).toOption.map Definition.toJson = some plainJson := rfl
  obtain ⟨d, hd, hplain⟩ := Option.map_eq_some_iff.mp hwritten
  have hread : Definition.ofText .json mixedJson.compact.toUTF8 = .ok d := by
    rw [ofText, ofJsonText, htree]
    exact toOption_eq_some_iff.mp hd
  obtain ⟨hdepth, hagain⟩ := decoded_is_read_back hread
  rw [← hplain]
  exact ⟨d, hread, rfl, (hagain Json.reading Json.levels hdepth).1⟩

end Paperwork
