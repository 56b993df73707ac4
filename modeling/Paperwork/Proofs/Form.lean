import Paperwork.Form
import Paperwork.Proofs.Report.Accounting

/-!
# What a form shows

A form lists the input fields twice: as fields, and by name in its layout, where the members of a
group stand together. Both lists are made of the definition on their own, and they agree
(`names_layout`), so the text of a form has one line for each field (`Form.shows_entryLines`). The
values, messages and counts of a filled form are those of the report (`Form.Reflects`).
-/

namespace Paperwork

open Template

/-! ## Layouts -/

/-- The names in a layout entry. -/
def LayoutEntry.names : LayoutEntry → List String
  | field name => [name]
  | group _ _ names => names

theorem FieldEntry.names_layout (e : FieldEntry) :
    e.layout.names = e.flatten.map FlatField.name := by
  cases e with
  | field f => rfl
  | group g =>
    show g.fields.map _ = (g.fields.map _).map _
    rw [List.map_map]
    rfl

/-- The layout of a definition names its fields in the order of their declaration. -/
theorem Definition.names_layout (d : Definition) :
    (d.fields.map FieldEntry.layout).flatMap LayoutEntry.names = d.inputNames := by
  rw [List.flatMap_map, Definition.inputNames, Definition.flatFields, List.map_flatMap]
  exact List.flatMap_congr fun e _ => e.names_layout

/--
The lines that a layout shows of fields: one for each field, in order, those of the members of a
group set in below its label.
-/
inductive Shows : List LayoutEntry → List FormField → List String → Prop
  | done : Shows [] [] []
  | field {x : FormField} {layout : List LayoutEntry} {fields : List FormField}
      {lines : List String} (others : Shows layout fields lines) :
      Shows (.field x.field.name :: layout) (x :: fields) ((" - " ++ x.line) :: lines)
  | group {name label : String} {members : List FormField} {layout : List LayoutEntry}
      {fields : List FormField} {lines : List String} (others : Shows layout fields lines) :
      Shows (.group name label (members.map (·.field.name)) :: layout) (members ++ fields)
        ((" [" ++ label ++ "]") :: members.map (fun x => "   - " ++ x.line) ++ lines)

namespace Form

/-- The lines of a form above those of the fields. -/
def opening (f : Form) : List String :=
  ["Template: " ++ f.template,
    "Status: " ++ f.status.word ++ " (" ++ Nat.repr f.valid ++ "/" ++ Nat.repr f.total ++ ")",
    "Fields:"]

/-- The lines of a form below those of the fields. -/
def closing (f : Form) : List String :=
  (if f.derived.isEmpty then [] else "Derived:" :: f.derived.map derivedLine)
    ++ (if f.documents.isEmpty then [] else ["Documents: " ++ ", ".intercalate f.documents])

variable {f : Form}

theorem lines_eq (f : Form) :
    f.lines = f.opening ++ f.layout.flatMap f.entryLines ++ f.closing := by
  rw [lines, opening, closing]
  simp only [List.append_assoc]

theorem fieldLines_of_mem (hdistinct : (f.fields.map (·.field.name)).Nodup) {x : FormField}
    (hx : x ∈ f.fields) (bullet : String) : f.fieldLines bullet x.field.name = [bullet ++ x.line] := by
  have hfound : f.field? x.field.name = some x := find?_name_of_mem hdistinct hx
  rw [fieldLines, hfound]

theorem flatMap_fieldLines (hdistinct : (f.fields.map (·.field.name)).Nodup) {xs : List FormField}
    (hxs : ∀ x ∈ xs, x ∈ f.fields) (bullet : String) :
    (xs.map (·.field.name)).flatMap (f.fieldLines bullet) = xs.map fun x => bullet ++ x.line := by
  induction xs with
  | nil => rfl
  | cons x xs ih =>
    obtain ⟨hx, hxs⟩ := List.forall_mem_cons.mp hxs
    rw [List.map_cons, List.flatMap_cons, fieldLines_of_mem hdistinct hx, ih hxs, List.map_cons,
      List.singleton_append]

/-- A layout that names some fields of a form shows them, and nothing else. -/
theorem shows_entryLines (hdistinct : (f.fields.map (·.field.name)).Nodup)
    {layout : List LayoutEntry} {xs : List FormField} (hxs : ∀ x ∈ xs, x ∈ f.fields)
    (hnames : layout.flatMap LayoutEntry.names = xs.map (·.field.name)) :
    Shows layout xs (layout.flatMap f.entryLines) := by
  induction layout generalizing xs with
  | nil =>
    obtain rfl : xs = [] := List.map_eq_nil_iff.mp hnames.symm
    exact .done
  | cons entry layout ih =>
    rw [List.flatMap_cons] at hnames
    obtain ⟨members, rest, rfl, hmembers, hrest⟩ := List.map_eq_append_iff.mp hnames.symm
    rw [List.forall_mem_append] at hxs
    have hothers : Shows layout rest (layout.flatMap f.entryLines) := ih hxs.2 hrest.symm
    rw [List.flatMap_cons]
    cases entry with
    | field name =>
      obtain ⟨x, rfl, rfl⟩ := List.map_eq_singleton_iff.mp hmembers
      rw [entryLines, fieldLines_of_mem hdistinct (hxs.1 x (List.mem_singleton_self x))]
      exact hothers.field
    | group name label names =>
      obtain rfl : members.map (·.field.name) = names := hmembers
      rw [entryLines, flatMap_fieldLines hdistinct hxs.1]
      exact hothers.group

end Form

/-! ## Forms of templates -/

section Forms

variable {d : Definition} {t : Template} {report : Option Report}

theorem map_field_form (t : Template) (report : Option Report) :
    (t.form report).fields.map (·.field) = t.fields := by
  show (t.fields.map (FormField.ofReport report)).map (·.field) = t.fields
  rw [List.map_map]
  exact List.map_id _

theorem map_name_form (t : Template) (report : Option Report) :
    (t.form report).fields.map (·.field.name) = t.inputNames := by
  rw [inputNames, ← map_field_form t report, List.map_map]
  rfl

theorem layout_form (h : ofDefinition d = .ok t) :
    (t.form report).layout.flatMap LayoutEntry.names = t.inputNames ∧
      t.inputNames = d.inputNames := by
  have hdescribes := Definition.describes_of_ofDefinition h
  have hinputs : t.inputNames = d.inputNames := hdescribes.inputs
  refine ⟨?_, hinputs⟩
  show t.layout.flatMap LayoutEntry.names = t.inputNames
  rw [hdescribes.layout, Definition.names_layout, hinputs]

/-- The text of a form shows every field, in the order of the layout. -/
theorem shows_form (h : ofDefinition d = .ok t) :
    ∃ lines, Shows (t.form report).layout (t.form report).fields lines ∧
      (t.form report).text =
        "\n".intercalate ((t.form report).opening ++ lines ++ (t.form report).closing) := by
  have hdistinct : ((t.form report).fields.map (·.field.name)).Nodup := by
    rw [map_name_form]
    exact (scoped_of_ofDefinition h).inputs_distinct
  refine ⟨_, Form.shows_entryLines hdistinct (fun _ hx => hx) ?_, ?_⟩
  · rw [(layout_form h).1, map_name_form]
  · rw [Form.text, Form.lines_eq]

end Forms

/-! ## Filled forms -/

/--
A form shows what a report holds: each input field with its value and its message, if there is one,
the number of fields that are settled, and derived values if those are all.
-/
structure Form.Reflects (f : Form) (t : Template) (r : Report) : Prop where
  counted : f.valid + r.errorCount = f.total
  total : f.total = t.fields.length
  complete : f.status = .complete ↔ f.valid = f.total
  invalid : f.status = .invalid ↔ f.valid ≠ f.total
  fields : f.fields.map (·.field) = t.fields
  recorded : ∀ x ∈ f.fields, ∃ v, r.fields.get? x.field.name = some v ∧ x.value = some v
  rejected : ∀ x ∈ f.fields, r.errors.get? x.field.name = some x.error
  derived : f.derived.map (·.1) = t.derivedNames
  computed : f.status = .complete → ∀ e ∈ f.derived, ∃ v, r.fields.get? e.1 = some v ∧ e.2 = some v
  pending : f.status = .invalid → ∀ e ∈ f.derived, e.2 = none

section Reports

variable {d : Definition} {t : Template} {input : Json} {r : Report}

theorem valid_form (t : Template) (r : Report) :
    (t.form (some r)).valid = t.fields.countP fun f => (r.rejection? f.name).isNone := by
  show (t.fields.map (FormField.ofReport (some r))).countP (·.error.isNone) = _
  rw [List.countP_map]
  rfl

theorem total_form (t : Template) (report : Option Report) :
    (t.form report).total = t.fields.length := List.length_map _

/-- A field is either rejected or settled. -/
theorem valid_add_errorCount (ht : t.Scoped) (hr : t.evaluate input = .ok r) :
    (t.form (some r)).valid + r.errorCount = t.fields.length := by
  rw [valid_form, (errorCount_of_evaluate ht hr).1, Nat.add_comm,
    List.length_eq_countP_add_countP fun f => (r.rejection? f.name).isSome]
  refine congrArg _ (List.countP_congr fun f _ => ?_)
  rw [decide_eq_true_iff, Option.not_isSome_iff_eq_none, Option.isNone_iff_eq_none]

theorem status_form (t : Template) (r : Report) :
    (t.form (some r)).status = if r.errorCount = 0 then .complete else .invalid := by
  show (if (r.errorCount == 0) = true then _ else _) = _
  simp only [beq_iff_eq]

theorem status_form_eq_complete_iff : (t.form (some r)).status = .complete ↔ r.errorCount = 0 := by
  rw [status_form]
  split <;> simp [*]

theorem status_form_eq_invalid_iff : (t.form (some r)).status = .invalid ↔ r.errorCount ≠ 0 := by
  rw [status_form]
  split <;> simp [*]

theorem entry_of_mem_form (ht : t.Scoped) (hr : t.evaluate input = .ok r) {x : FormField}
    (hx : x ∈ (t.form (some r)).fields) :
    (∃ v, r.fields.get? x.field.name = some v ∧ x.value = some v) ∧
      r.errors.get? x.field.name = some x.error := by
  obtain ⟨f, hf, rfl⟩ := List.mem_map.mp hx
  obtain ⟨before, after, heq⟩ := List.append_of_mem hf
  obtain ⟨hvalue, hmessage⟩ := eachAfter_of_evaluate ht hr before f after heq
  refine ⟨⟨_, hvalue, hvalue⟩, ?_⟩
  show r.errors.get? f.name = some (r.errors.get? f.name).join
  rw [hmessage, Option.join_some]

/-- Derived values are shown exactly if no field was rejected. -/
theorem isSome_of_mem_derived_form (ht : t.Scoped) (hr : t.evaluate input = .ok r)
    {e : String × Option Value} (he : e ∈ (t.form (some r)).derived) :
    e.2 = r.fields.get? e.1 ∧ (e.2.isSome ↔ r.errorCount = 0) := by
  obtain ⟨x, hx, rfl⟩ := List.mem_map.mp he
  have hname : x.name ∈ t.derivedNames := List.mem_map_of_mem hx
  have hnew : x.name ∉ t.inputNames := ht.derived_new.2 _ hname
  refine ⟨rfl, ?_⟩
  show (r.fields.get? x.name).isSome ↔ r.errorCount = 0
  rw [← Dict.mem_keys_iff, mem_fields_keys_iff ht hr, or_iff_right hnew, and_iff_left hname]

theorem reflects_form (h : ofDefinition d = .ok t) (hr : t.evaluate input = .ok r) :
    (t.form (some r)).Reflects t r := by
  have ht := scoped_of_ofDefinition h
  have hcounted := valid_add_errorCount ht hr
  have htotal := total_form t (some r)
  exact {
    counted := by rw [hcounted, htotal]
    total := htotal
    complete := by
      rw [status_form_eq_complete_iff]
      omega
    invalid := by
      rw [status_form_eq_invalid_iff]
      omega
    fields := map_field_form t (some r)
    recorded := fun x hx => (entry_of_mem_form ht hr hx).1
    rejected := fun x hx => (entry_of_mem_form ht hr hx).2
    derived := by
      show (t.derived.map _).map _ = t.derived.map _
      rw [List.map_map]
      rfl
    computed := fun hstatus e he => by
      obtain ⟨hvalue, hsome⟩ := isSome_of_mem_derived_form ht hr he
      obtain ⟨v, hv⟩ := Option.isSome_iff_exists.mp
        (hsome.mpr (status_form_eq_complete_iff.mp hstatus))
      exact ⟨v, hvalue.symm.trans hv, hv⟩
    pending := fun hstatus e he => by
      obtain ⟨-, hsome⟩ := isSome_of_mem_derived_form ht hr he
      have hnone := mt hsome.mp (status_form_eq_invalid_iff.mp hstatus)
      rwa [Option.not_isSome_iff_eq_none] at hnone }

/--
The form of a report shows what the report holds, and the fields that are settled and those that are
rejected add up to all of them. With or without a report, the layout names the input fields in the
order of their declaration, each of them once and each with an entry in the form, and the text has
one line for each of them in this order.
-/
theorem form_shows_fields (h : ofDefinition d = .ok t) :
    (∀ input r, t.evaluate input = .ok r → (t.form (some r)).Reflects t r) ∧
    ∀ report, (t.form report).layout.flatMap LayoutEntry.names = d.inputNames ∧
      d.inputNames = t.fields.map (·.name) ∧ d.inputNames.Nodup ∧
      (t.form report).fields.map (·.field) = t.fields ∧
      (∀ n ∈ d.inputNames, ∃ x, (t.form report).field? n = some x ∧ x.field.name = n) ∧
      ∃ lines, Shows (t.form report).layout (t.form report).fields lines ∧
        (t.form report).text =
          "\n".intercalate ((t.form report).opening ++ lines ++ (t.form report).closing) := by
  refine ⟨fun input r => reflects_form h, fun report => ?_⟩
  obtain ⟨hlayout, hinputs⟩ := @layout_form d t report h
  have hdistinct := (scoped_of_ofDefinition h).inputs_distinct
  have hnames := map_name_form t report
  refine ⟨hlayout.trans hinputs, hinputs.symm, hinputs ▸ hdistinct, map_field_form t report,
    fun n hn => ?_, shows_form h⟩
  rw [← hinputs, ← hnames] at hn
  obtain ⟨x, hx, rfl⟩ := List.mem_map.mp hn
  rw [← hnames] at hdistinct
  exact ⟨x, find?_name_of_mem hdistinct hx, rfl⟩

/-- A tenant who gives no plain answer sees one settled field of three and no derived value. -/
theorem vagueForm_shows_fields :
    ofDefinition lease = .ok leaseTemplate ∧
      leaseTemplate.evaluate vagueInput = .ok vagueReport ∧
      (leaseTemplate.form (some vagueReport)).Reflects leaseTemplate vagueReport ∧
      (leaseTemplate.form (some vagueReport)).valid = 1 ∧
      (leaseTemplate.form (some vagueReport)).status = .invalid ∧
      (leaseTemplate.form none).layout.flatMap LayoutEntry.names =
        ["tenant", "married", "spouse.name"] ∧
      ∃ lines, Shows leaseTemplate.layout (leaseTemplate.form none).fields lines ∧
        (leaseTemplate.form none).text = "\n".intercalate
          ((leaseTemplate.form none).opening ++ lines ++ (leaseTemplate.form none).closing) := by
  obtain ⟨hreports, hforms⟩ := form_shows_fields ofDefinition_lease
  have hreflects := hreports vagueInput vagueReport evaluate_vague
  obtain ⟨hlayout, -, -, -, -, hshown⟩ := hforms none
  have hvalid : (leaseTemplate.form (some vagueReport)).valid = 1 :=
    Nat.add_right_cancel (hreflects.counted.trans hreflects.total)
  have hstatus : (leaseTemplate.form (some vagueReport)).status = .invalid := by
    rw [hreflects.invalid, hvalid, hreflects.total]
    decide
  exact ⟨ofDefinition_lease, evaluate_vague, hreflects, hvalid, hstatus, hlayout, hshown⟩

example : (leaseTemplate.form (some vagueReport)).layout.flatMap
      (leaseTemplate.form (some vagueReport)).entryLines =
    [" - tenant (tenant, string) [required] = Ada",
      " - married (married, boolean) [required] = perhaps"
        ++ " ! Value of married must be true/false/yes/no",
      " [spouse]",
      "   - spouse.name (spouse.name, string) [required] [if married]"
        ++ " =  ! Field spouse.name is required"] := by
  cbv

end Reports

end Paperwork
