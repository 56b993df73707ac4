import Paperwork.Proofs.Outcome
import Paperwork.Proofs.Word.Cut
import Paperwork.Proofs.Word.Markup

/-!
# Filled texts

A text is filled by writing the value of a field, and the tags that stood inside of the placeholder,
in place of each placeholder (`substitute_eq`). Values are escaped, so a text keeps its tags as long
as its delimiters stand apart from them (`substitute_keeps_tags`).
-/

namespace Paperwork

namespace Placeholder

variable {d : Delimiters} {fields : Fields} {text inside filled last : List Char}
  {pieces : List (List Char × List Char)}

/-- What takes the place of a placeholder whose field has a value. -/
def filling (fields : Fields) (inside : List Char) : List Char :=
  match fields.get? (fieldName inside) with
  | some v => Markup.escape v.display.toList ++ (Markup.tags inside).flatten
  | none => []

theorem expand_of_contains (h : fields.contains (fieldName inside)) :
    expand fields inside = .ok (filling fields inside) := by
  obtain ⟨v, hv⟩ := Option.isSome_iff_exists.mp h
  simp only [expand, filling, hv]

theorem expand_of_not_contains (h : ¬ fields.contains (fieldName inside)) :
    expand fields inside = .error (fieldName inside) := by
  have hnone : fields.get? (fieldName inside) = none := by
    simpa [Dict.contains] using h
  simp only [expand, hnone]

/-- Placeholders are expanded up to the first one whose field has no value. -/
theorem expandAll_eq (fields : Fields) (pieces : List (List Char × List Char)) :
    expandAll fields pieces =
      match pieces.find? fun p => !fields.contains (fieldName p.2) with
      | some p => .error (fieldName p.2)
      | none => .ok (pieces.flatMap fun p => p.1 ++ filling fields p.2) := by
  induction pieces with
  | nil => rfl
  | cons p rest ih =>
    obtain ⟨before, inside⟩ := p
    rw [expandAll, List.find?_cons]
    by_cases hfield : fields.contains (fieldName inside)
    · rw [expand_of_contains hfield, ih]
      simp only [hfield, Bool.not_true]
      cases rest.find? fun p => !fields.contains (fieldName p.2) with
      | none => simp only [List.flatMap_cons]; rfl
      | some p => rfl
    · rw [expand_of_not_contains hfield]
      rw [Bool.not_eq_true] at hfield
      simp only [hfield, Bool.not_false]
      rfl

/-- A text is filled piece by piece, unless some field has no value; the first such one is told. -/
theorem substitute_eq (d : Delimiters) (fields : Fields) (text : List Char) :
    substitute d fields text =
      match (d.cut text).pieces.find? fun p => !fields.contains (fieldName p.2) with
      | some p => .error (fieldName p.2)
      | none =>
        .ok (((d.cut text).pieces.flatMap fun p => p.1 ++ filling fields p.2) ++ (d.cut text).last) := by
  rw [substitute, expandAll_eq]
  cases (d.cut text).pieces.find? fun p => !fields.contains (fieldName p.2) <;> rfl

theorem expandAll_append (fields : Fields) (pieces others : List (List Char × List Char)) :
    expandAll fields (pieces ++ others) = (do
      let filled ← expandAll fields pieces
      let more ← expandAll fields others
      pure (filled ++ more)) := by
  induction pieces with
  | nil =>
    show expandAll fields others = (expandAll fields others >>= pure)
    rw [bind_pure]
  | cons p rest ih =>
    obtain ⟨before, inside⟩ := p
    rw [List.cons_append, expandAll, expandAll, ih]
    cases expand fields inside with
    | error name => rfl
    | ok value =>
      cases expandAll fields rest with
      | error name => rfl
      | ok filled =>
        cases expandAll fields others with
        | error name => rfl
        | ok more =>
          show Except.ok _ = Except.ok _
          simp only [List.append_assoc]

/-- A placeholder behind a closed text is filled apart from the texts around it. -/
theorem substitute_around {before behind : List Char} (hd : d.areEmpty = false)
    (hclosed : d.IsClosed before)
    (hinside : StartsNowhere d.stop.toList (inside ++ d.stop.toList) inside.length) :
    substitute d fields (before ++ d.start.toList ++ inside ++ d.stop.toList ++ behind) = (do
      let filled ← substitute d fields before
      let value ← expand fields inside
      let more ← substitute d fields behind
      pure (filled ++ value ++ more)) := by
  unfold substitute
  rw [Delimiters.cut_around hd hclosed hinside]
  dsimp only
  rw [expandAll_append, expandAll]
  cases expandAll fields (d.cut before).pieces with
  | error name => rfl
  | ok filled =>
    cases expand fields inside with
    | error name => rfl
    | ok value =>
      cases expandAll fields (d.cut behind).pieces with
      | error name => rfl
      | ok more =>
        show Except.ok _ = Except.ok _
        simp only [List.append_assoc]

/-! ## Tags -/

theorem expandAll_cons_eq_ok_iff {before : List Char} :
    expandAll fields ((before, inside) :: pieces) = .ok filled ↔
      ∃ v more, fields.get? (fieldName inside) = some v ∧ expandAll fields pieces = .ok more ∧
        filled = before ++ (Markup.escape v.display.toList ++ (Markup.tags inside).flatten) ++ more := by
  rw [expandAll, bind_eq_ok_iff]
  simp only [bind_eq_ok_iff, pure_eq_ok_iff, expand]
  cases hv : fields.get? (fieldName inside) with
  | none => simp
  | some v => simp [eq_comm]

/-- No closing angle is written into a text without any. -/
theorem angle_not_mem_filled (hcut : d.IsCut text pieces last)
    (h : expandAll fields pieces = .ok filled) (htext : '>' ∉ text) : '>' ∉ filled ++ last := by
  induction hcut generalizing filled with
  | done =>
    obtain rfl := Except.ok.inj h
    exact htext
  | @next text before inside rest last pieces hfirst _ ih =>
    obtain ⟨v, more, -, hmore, rfl⟩ := expandAll_cons_eq_ok_iff.mp h
    rw [hfirst.text_eq] at htext
    simp only [List.mem_append, not_or] at htext
    obtain ⟨⟨⟨⟨hbefore, -⟩, hinside⟩, -⟩, hrest⟩ := htext
    have hescape := (Markup.angle_not_mem_escape v.display.toList).2
    have hlater := ih hmore hrest
    rw [Markup.tags_eq_nil hinside]
    simp only [List.append_assoc, List.flatten_nil, List.nil_append, List.mem_append, not_or]
      at hlater ⊢
    exact ⟨hbefore, hescape, hlater⟩

end Placeholder

/-! ## Places -/

/-- Two stretches of a text have no place in common. -/
def Apart (s t : Nat × Nat) : Prop := s.2 ≤ t.1 ∨ t.2 ≤ s.1

instance (s t : Nat × Nat) : Decidable (Apart s t) := inferInstanceAs (Decidable (_ ∨ _))

theorem not_apart_of_across {s t : Nat × Nat} (hs : s.1 ≤ s.2) (hopen : t.1 < s.1)
    (hclose : s.1 < t.2) : ¬ Apart s t := by
  unfold Apart
  omega

namespace Delimiters

/-- The places of the delimiters around placeholders, given what stands before and inside of each. -/
def spansFrom (d : Delimiters) : Nat → List (List Char × List Char) → List (Nat × Nat)
  | _, [] => []
  | n, (before, inside) :: rest =>
    let start := n + before.length
    let name := start + d.start.toList.length
    let stop := name + inside.length
    (start, name) :: (stop, stop + d.stop.toList.length) ::
      spansFrom d (stop + d.stop.toList.length) rest

/-- Where the delimiters of the placeholders of a text start and end. -/
def spans (d : Delimiters) (text : List Char) : List (Nat × Nat) := d.spansFrom 0 (d.cut text).pieces

/-- Neither delimiter has an angle in it. -/
structure AreAngleFree (d : Delimiters) : Prop where
  start : '<' ∉ d.start.toList ∧ '>' ∉ d.start.toList
  stop : '<' ∉ d.stop.toList ∧ '>' ∉ d.stop.toList

end Delimiters

namespace Placeholder

open Markup

variable {d : Delimiters} {fields : Fields} {text inside filled last : List Char}
  {pieces : List (List Char × List Char)} {n : Nat}

/-- The tags of a filled text are those of the text. -/
theorem tags_of_expandAll (hd : d.AreAngleFree) (hcut : d.IsCut text pieces last)
    (hapart : ∀ s ∈ d.spansFrom n pieces, ∀ t ∈ spansFrom n (cutTags text).1, Apart s t)
    (h : expandAll fields pieces = .ok filled) : tags (filled ++ last) = tags text := by
  induction hcut generalizing n filled with
  | done =>
    obtain rfl := Except.ok.inj h
    rfl
  | @next text before inside rest last pieces hfirst hothers ih =>
    obtain ⟨v, more, -, hmore, rfl⟩ := expandAll_cons_eq_ok_iff.mp h
    have htext : text = before ++ (d.start.toList ++ (inside ++ (d.stop.toList ++ rest))) := by
      rw [hfirst.text_eq]
      simp
    have hescape := angle_not_mem_escape v.display.toList
    simp only [Delimiters.spansFrom, List.forall_mem_cons] at hapart
    obtain ⟨hstart, hstop, hlater⟩ := hapart
    rw [htext] at hstart hstop hlater ⊢
    simp only [List.append_assoc]
    by_cases hopen : EndsOpen before
    · -- a tag left open before the placeholder is never closed, for it would reach over the delimiter
      have hnever : '>' ∉ d.start.toList ++ (inside ++ (d.stop.toList ++ rest)) := by
        intro hclose
        obtain ⟨t, ht, hbefore, hbehind⟩ := exists_span_across (n := n) hopen hclose
        exact not_apart_of_across (Nat.le_add_right _ _) hbefore hbehind (hstart t ht)
      have hparts := hnever
      simp only [List.mem_append, not_or] at hparts
      obtain ⟨-, hinside, -, hrest⟩ := hparts
      have hlast := angle_not_mem_filled hothers hmore hrest
      have hfilled : '>' ∉ escape v.display.toList ++ ((tags inside).flatten ++ (more ++ last)) := by
        rw [tags_eq_nil hinside, List.flatten_nil, List.nil_append, List.mem_append, not_or]
        exact ⟨hescape.2, hlast⟩
      rw [tags_append_of_endsOpen hopen hfilled, tags_append_of_endsOpen hopen hnever]
    rw [tags_append_of_not_endsOpen hopen, tags_append_of_not_mem hescape.1,
      tags_append_of_not_endsOpen (not_endsOpen_flatten isTag_of_mem_tags),
      tags_flatten isTag_of_mem_tags, tags_append_of_not_endsOpen hopen,
      tags_append_of_not_mem hd.start.1]
    rw [spansFrom_append_of_not_endsOpen hopen, spansFrom_append_of_not_mem hd.start.1]
      at hstop hlater
    congr 1
    by_cases hinside : EndsOpen inside
    · -- neither is one left open inside of it, for it would reach over the other delimiter
      have hnever : '>' ∉ d.stop.toList ++ rest := by
        intro hclose
        obtain ⟨t, ht, hbefore, hbehind⟩ :=
          exists_span_across (n := n + before.length + d.start.toList.length) hinside hclose
        exact not_apart_of_across (Nat.le_add_right _ _) hbefore hbehind
          (hstop t (List.mem_append_right _ ht))
      have hrest : '>' ∉ rest := fun hmem => hnever (List.mem_append_right _ hmem)
      rw [tags_append_of_endsOpen hinside hnever,
        tags_eq_nil (angle_not_mem_filled hothers hmore hrest), List.append_nil]
    · rw [tags_append_of_not_endsOpen hinside, tags_append_of_not_mem hd.stop.1]
      rw [spansFrom_append_of_not_endsOpen hinside, spansFrom_append_of_not_mem hd.stop.1] at hlater
      congr 1
      refine ih (fun s hs t ht => hlater s hs t ?_) hmore
      exact List.mem_append_right _ (List.mem_append_right _ ht)

/--
Where no delimiter of a placeholder has a place in common with a tag, a filled text has the tags of
the text, in the same order and letter by letter, whatever the values are.
-/
theorem substitute_keeps_tags {filled : List Char}
    (hapart : ∀ s ∈ Delimiters.brackets.spans text, ∀ t ∈ spans text, Apart s t)
    (h : substitute .brackets fields text = .ok filled) : tags filled = tags text := by
  have hfree : Delimiters.brackets.AreAngleFree := ⟨by decide, by decide⟩
  rw [substitute, bind_eq_ok_iff] at h
  obtain ⟨more, hmore, h⟩ := h
  rw [← pure_eq_ok_iff.mp h]
  exact tags_of_expandAll hfree ((Delimiters.cut_eq_iff_isCut (by decide)).mp rfl) hapart hmore

/-- A placeholder that two tags cut in half, and a value that looks like a tag and a placeholder. -/
theorem substitute_keeps_tags_inside :
    let text := "<w:p>[[na</w:t><w:t>me]] & more</w:p>".toList
    let fields : Fields := .ofList [("name", .text "<b>]]&[[")]
    let filled := "<w:p>&lt;b&gt;]]&amp;[[</w:t><w:t> & more</w:p>".toList
    (∀ s ∈ Delimiters.brackets.spans text, ∀ t ∈ spans text, Apart s t) ∧
      substitute .brackets fields text = .ok filled ∧ tags filled = tags text := by
  intro text fields filled
  have hapart : ∀ s ∈ Delimiters.brackets.spans text, ∀ t ∈ spans text, Apart s t := by
    decide +kernel
  have hfilled : substitute .brackets fields text = .ok filled := by decide +kernel
  exact ⟨hapart, hfilled, substitute_keeps_tags hapart hfilled⟩

end Placeholder

end Paperwork
