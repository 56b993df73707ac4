import Mathlib.Data.List.Permutation
import Paperwork.Proofs.Dict
import Paperwork.Proofs.Json.ReadBack
import Paperwork.Proofs.Json.Trees
import Paperwork.Proofs.Session.Channels
import Paperwork.Proofs.Value

/-!
# Payloads for evaluation and generation

A payload spells members if it is the text of an object that has them, in any order (`Spells`). What
such a payload asks for depends on the members alone: fields are read back as they were sent
(`request_fields`), and an input is read on two channels alike, up to the channel that the failure
names (`request_evaluate`, `request_input`).
-/

namespace Paperwork

/-! ## Fields and their trees -/

namespace Value

variable (reading : Reading)

theorem jsonItems?_texts (items : List String) (levels : Nat) :
    Tree.jsonItems? reading levels (Tree.ofJsonItems (items.map .text)) =
      .ok (items.map .text) := by
  induction items with
  | nil => rfl
  | cons s items ih =>
    rw [List.map_cons, Tree.ofJsonItems, Tree.jsonItems?, ih]
    rfl

theorem json?_toJson (v : Value) (levels : Nat) :
    (Tree.ofJson v.toJson).json? reading (levels + 1) = .ok v.toJson := by
  cases v with
  | text s => rfl
  | flag b => rfl
  | list items =>
    show (Tree.jsonItems? reading levels (Tree.ofJsonItems (items.map .text))).map Json.array = _
    rw [jsonItems?_texts]
    rfl

theorem ofJson?_toJson (v : Value) : ofJson? v.toJson = some v := by
  cases v with
  | text s => rfl
  | flag b => rfl
  | list items =>
    show (textItems? (items.map .text)).map list = some (list items)
    rw [textItems?_map_text, Option.map_some]

theorem ofTree?_toJson (v : Value) : ofTree? reading (Tree.ofJson v.toJson) = .ok v := by
  rw [ofTree?, bind_eq_ok_iff]
  refine ⟨v.toJson, json?_toJson reading v _, ?_⟩
  rw [ofJson?_toJson]

end Value

namespace Fields

variable (reading : Reading)

theorem go_toJson (entries : List (String × Value)) (fields : Fields) :
    ofTree?.go reading (Tree.ofJsonMembers (entries.map fun e => (e.1, e.2.toJson))) fields =
      .ok (entries.foldl (fun d e => d.insert e.1 e.2) fields) := by
  induction entries generalizing fields with
  | nil => rfl
  | cons e rest ih =>
    rw [List.map_cons, Tree.ofJsonMembers, ofTree?.go, Tree.text?_text]
    show (Value.ofTree? reading (Tree.ofJson e.2.toJson) >>= fun v => _) = _
    rw [Value.ofTree?_toJson]
    exact ih _

/-- Fields are read back from their JSON form as they were. -/
theorem ofTree?_toJson (fields : Fields) :
    ofTree? reading (Tree.ofJson fields.toJson) = .ok fields := by
  rw [toJson, Tree.ofJson, ofTree?, go_toJson]
  exact congrArg _ (Dict.ofList_toList fields)

end Fields

/-! ## Requests -/

/-- A text is read as an object with given members, in whatever order. -/
def Spells (payload : String) (members : List (String × Json)) : Prop :=
  ∃ entries, entries.Perm members ∧ payloadTree payload = .ok (Tree.ofJson (.object entries))

/-- The compact text of an object without numbers spells its members. -/
theorem spells_compact {members : List (String × Json)}
    (h : ∀ m ∈ members, Json.NumberFree m.2) : Spells (Json.object members).compact members := by
  have hread := Json.read_compact (.object h)
  have hnotBlank : isBlankText (Json.object members).compact = false := by
    rw [Json.compact, isBlankText, String.toList_append, String.toList_append]
    rfl
  refine ⟨members, .rfl, ?_⟩
  rw [payloadTree, hnotBlank, if_neg Bool.false_ne_true, hread]
  rfl

namespace Channel

variable {payload directory : String} {v : Json}

/-- The input that a channel reads in a payload; a failure names the channel. -/
def inputOf (c : Channel) (v : Json) : Except SessionError Json :=
  (innerJson (Tree.ofJson v)).mapError fun e => .request c.name e.message

theorem request_evaluate (h : Spells payload [("input", v)]) :
    evaluateTemplate.request payload = (evaluateTemplate.inputOf v).map .evaluate := by
  obtain ⟨entries, hperm, htree⟩ := h
  rw [List.perm_singleton] at hperm
  subst hperm
  have hslots : (Tree.ofJson (.object [("input", v)])).slots? Json.reading [["input"]] =
      .ok [some (Tree.ofJson v)] := rfl
  have hrequest : Request.ofEvaluate (Tree.ofJson (.object [("input", v)])) =
      (innerJson (Tree.ofJson v)).map .evaluate := by
    rw [Request.ofEvaluate, hslots]
    rfl
  rw [request, read_of_payloadTree htree, hrequest, inputOf]
  cases innerJson (Tree.ofJson v) <;> rfl

theorem ofGenerate_input {entries : List (String × Json)} (hv : v ≠ .null)
    (h : entries.Perm [("input", v), ("out_dir", .text directory)]) :
    Request.ofGenerate (Tree.ofJson (.object entries)) =
      (innerJson (Tree.ofJson v)).map fun input => (none, some input, directory) := by
  have hslots : (Tree.ofJson (.object entries)).slots? Json.reading
      [["fields"], ["input"], ["out_dir"]] =
        .ok [none, some (Tree.ofJson v), some (Tree.text directory)] := by
    rcases List.perm_pair.mp h with rfl | rfl <;> rfl
  have habsent : (Tree.ofJson v).isAbsent Json.reading ≠ true := mt Tree.isAbsent_ofJson.mp hv
  rw [Request.ofGenerate, hslots]
  show (do
    let input ← Tree.givenOrNone Json.reading innerJson (some (Tree.ofJson v))
    pure (none, input, directory)) = _
  rw [Tree.givenOrNone, if_neg habsent]
  cases innerJson (Tree.ofJson v) <;> rfl

theorem ofGenerate_fields {entries : List (String × Json)} {fields : Fields}
    (h : entries.Perm [("fields", fields.toJson), ("out_dir", .text directory)]) :
    Request.ofGenerate (Tree.ofJson (.object entries)) = .ok (some fields, none, directory) := by
  have hslots : (Tree.ofJson (.object entries)).slots? Json.reading
      [["fields"], ["input"], ["out_dir"]] =
        .ok [some (Tree.ofJson fields.toJson), none, some (Tree.text directory)] := by
    rcases List.perm_pair.mp h with rfl | rfl <;> rfl
  have habsent : (Tree.ofJson fields.toJson).isAbsent Json.reading = false := rfl
  rw [Request.ofGenerate, hslots]
  show (do
    let fields ← Tree.givenOrNone Json.reading (Fields.ofTree? Json.reading)
      (some (Tree.ofJson fields.toJson))
    pure (fields, none, directory)) = _
  rw [Tree.givenOrNone, habsent, if_neg Bool.false_ne_true, Fields.ofTree?_toJson]
  rfl

theorem request_input (h : Spells payload [("input", v), ("out_dir", .text directory)])
    (hv : v ≠ .null) :
    generateDocuments.request payload =
      (generateDocuments.inputOf v).map fun input => .generateInput input directory := by
  obtain ⟨entries, hperm, htree⟩ := h
  rw [request, read_of_payloadTree htree, ofGenerate_input hv hperm, inputOf]
  cases innerJson (Tree.ofJson v) <;> rfl

theorem request_fields {fields : Fields}
    (h : Spells payload [("fields", fields.toJson), ("out_dir", .text directory)]) :
    generateDocuments.request payload = .ok (.generateFields fields directory) := by
  obtain ⟨entries, hperm, htree⟩ := h
  rw [request, read_of_payloadTree htree, ofGenerate_fields hperm]
  rfl

end Channel

end Paperwork
