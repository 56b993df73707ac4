import Paperwork.Proofs.Text.Pieces
import Paperwork.Word.Markup

/-!
# Where tags stand

The first tag of a text starts at the first opening angle that a closing one follows, and ends at
the nearest closing one (`firstTag?_eq_some_iff`). A text in which no tag is left open can be read
apart from what follows it (`cutTags_append`); otherwise the open tag ends at the next closing angle
(`exists_span_across`), and without one there is no tag behind it (`tags_append_of_open`).
-/

namespace Paperwork.Markup

variable {text a b before tag rest : List Char} {n : Nat}

/-! ## The first tag -/

/-- A tag is an opening angle, anything but a closing one, and a closing angle. -/
def IsTag (tag : List Char) : Prop := ∃ body, tag = '<' :: body ++ ['>'] ∧ '>' ∉ body

theorem firstTag?_eq_some_iff :
    firstTag? text = some (before, tag, rest) ↔
      text = before ++ tag ++ rest ∧ '<' ∉ before ∧ IsTag tag := by
  constructor
  · intro h
    obtain ⟨⟨x, behind⟩, hopen, h⟩ := Option.bind_eq_some_iff.mp h
    obtain ⟨⟨body, y⟩, hclose, h⟩ := Option.bind_eq_some_iff.mp h
    cases h
    obtain ⟨htext, hbefore⟩ := splitFirst_singleton_eq_some_iff.mp hopen
    obtain ⟨hbehind, hbody⟩ := splitFirst_singleton_eq_some_iff.mp hclose
    exact ⟨by rw [htext, hbehind]; simp, hbefore, body, rfl, hbody⟩
  · rintro ⟨htext, hbefore, body, rfl, hbody⟩
    have hopen : splitFirst ['<'] text = some (before, body ++ '>' :: rest) :=
      splitFirst_singleton_eq_some_iff.mpr ⟨by rw [htext]; simp, hbefore⟩
    have hclose : splitFirst ['>'] (body ++ '>' :: rest) = some (body, rest) :=
      splitFirst_singleton_eq_some_iff.mpr ⟨rfl, hbody⟩
    unfold firstTag?
    rw [hopen]
    show (splitFirst ['>'] (body ++ '>' :: rest)).bind _ = _
    rw [hclose]
    rfl

/-- There is no tag if no closing angle follows the first opening one. -/
theorem firstTag?_eq_none_iff :
    firstTag? text = none ↔ ∀ before behind, text = before ++ '<' :: behind → '<' ∉ before →
      '>' ∉ behind := by
  constructor
  · rintro h before behind htext hbefore
    have hopen := splitFirst_singleton_eq_some_iff.mpr ⟨htext, hbefore⟩
    unfold firstTag? at h
    rw [hopen] at h
    change (splitFirst ['>'] behind).bind _ = none at h
    cases hclose : splitFirst ['>'] behind with
    | none => exact splitFirst_singleton_eq_none_iff.mp hclose
    | some cut =>
      rw [hclose] at h
      cases h
  · intro h
    rw [Option.eq_none_iff_forall_ne_some]
    rintro ⟨before, tag, rest⟩ hsome
    obtain ⟨htext, hbefore, body, rfl, -⟩ := firstTag?_eq_some_iff.mp hsome
    exact h before (body ++ '>' :: rest) (by rw [htext]; simp) hbefore (by simp)

/-! ## All tags -/

theorem cutTags_of_none (h : firstTag? text = none) : cutTags text = ([], text) := by
  rw [cutTags]
  split
  · rfl
  · rename_i hsome
    rw [h] at hsome
    cases hsome

theorem cutTags_of_some (h : firstTag? text = some (before, tag, rest)) :
    cutTags text = ((before, tag) :: (cutTags rest).1, (cutTags rest).2) := by
  rw [cutTags]
  split
  · rename_i hnone
    rw [h] at hnone
    cases hnone
  · rename_i hsome
    rw [h] at hsome
    cases hsome
    rfl

/-- Texts are cut at their first tags, one after the other. -/
theorem cutTags_induction {motive : List Char → Prop}
    (none : ∀ text, firstTag? text = none → motive text)
    (some : ∀ text before tag rest, firstTag? text = some (before, tag, rest) → motive rest →
      motive text) (text : List Char) : motive text := by
  cases h : firstTag? text with
  | none => exact none text h
  | some cut =>
    obtain ⟨before, tag, rest⟩ := cut
    have : rest.length < text.length := by
      obtain ⟨rfl, htag⟩ := append_of_firstTag? h
      have := List.length_pos_iff.mpr htag
      simp only [List.length_append]
      omega
    exact some text before tag rest h (cutTags_induction none some rest)
termination_by text.length

theorem tags_of_none (h : firstTag? text = none) : tags text = [] := by
  rw [tags, cutTags_of_none h, List.map_nil]

theorem tags_of_some (h : firstTag? text = some (before, tag, rest)) :
    tags text = tag :: tags rest := by
  rw [tags, cutTags_of_some h, List.map_cons, tags]

theorem tags_eq_nil (h : '>' ∉ text) : tags text = [] := by
  refine tags_of_none (firstTag?_eq_none_iff.mpr fun before behind htext _ hmem => h ?_)
  rw [htext]
  exact List.mem_append_right _ (List.mem_cons_of_mem _ hmem)

theorem isTag_of_mem_tags : ∀ t ∈ tags text, IsTag t := by
  induction text using cutTags_induction with
  | none text h => simp [tags_of_none h]
  | some text before tag rest h ih =>
    rw [tags_of_some h, List.forall_mem_cons]
    exact ⟨(firstTag?_eq_some_iff.mp h).2.2, ih⟩

/-- The places of tags, given what stands before each of them. -/
def spansFrom : Nat → List (List Char × List Char) → List (Nat × Nat)
  | _, [] => []
  | n, (before, tag) :: rest =>
    let start := n + before.length
    (start, start + tag.length) :: spansFrom (start + tag.length) rest

/-- Where the tags of a text start and end. -/
def spans (text : List Char) : List (Nat × Nat) := spansFrom 0 (cutTags text).1

/-! ## Open tags -/

/-- A text ends inside of a tag that is not closed in it. -/
def EndsOpen (text : List Char) : Prop := '<' ∈ (cutTags text).2

theorem firstTag?_append (h : firstTag? a = some (before, tag, rest)) :
    firstTag? (a ++ b) = some (before, tag, rest ++ b) := by
  obtain ⟨rfl, hbefore, htag⟩ := firstTag?_eq_some_iff.mp h
  exact firstTag?_eq_some_iff.mpr ⟨by simp, hbefore, htag⟩

theorem firstTag?_append_of_not_mem (h : '<' ∉ a) :
    firstTag? (a ++ b) = (firstTag? b).map fun (before, tag, rest) => (a ++ before, tag, rest) := by
  cases hb : firstTag? b with
  | none =>
    refine firstTag?_eq_none_iff.mpr fun before behind htext hbefore => ?_
    rcases List.append_eq_append_iff.mp htext with ⟨c, rfl, rfl⟩ | ⟨c, rfl, hc⟩
    · exact firstTag?_eq_none_iff.mp hb c behind rfl fun hmem =>
        hbefore (List.mem_append_right _ hmem)
    · cases c with
      | nil => exact firstTag?_eq_none_iff.mp hb [] behind hc.symm List.not_mem_nil
      | cons x c =>
        obtain ⟨rfl, -⟩ := List.cons.inj hc
        exact absurd (by simp) h
  | some cut =>
    obtain ⟨before, tag, rest⟩ := cut
    obtain ⟨rfl, hbefore, htag⟩ := firstTag?_eq_some_iff.mp hb
    exact firstTag?_eq_some_iff.mpr ⟨by simp, by simp [h, hbefore], htag⟩

theorem tags_append_of_not_mem (h : '<' ∉ a) : tags (a ++ b) = tags b := by
  have hfirst := firstTag?_append_of_not_mem (b := b) h
  cases hb : firstTag? b with
  | none => rw [tags_of_none hb, tags_of_none (by rw [hfirst, hb]; rfl)]
  | some cut =>
    rw [hb] at hfirst
    rw [tags_of_some hb, tags_of_some hfirst]

theorem spansFrom_append_of_not_mem (h : '<' ∉ a) :
    spansFrom n (cutTags (a ++ b)).1 = spansFrom (n + a.length) (cutTags b).1 := by
  have hfirst := firstTag?_append_of_not_mem (b := b) h
  cases hb : firstTag? b with
  | none =>
    rw [cutTags_of_none hb, cutTags_of_none (by rw [hfirst, hb]; rfl)]
    rfl
  | some cut =>
    rw [hb] at hfirst
    rw [cutTags_of_some hb, cutTags_of_some hfirst]
    simp only [spansFrom, List.length_append, Nat.add_assoc]

/-- The tags of a text that ends outside of them are followed by those of the next text. -/
theorem tags_append_of_not_endsOpen (h : ¬ EndsOpen a) : tags (a ++ b) = tags a ++ tags b := by
  induction a using cutTags_induction with
  | none a hnone =>
    rw [EndsOpen, cutTags_of_none hnone] at h
    rw [tags_append_of_not_mem h, tags_of_none hnone, List.nil_append]
  | some a before tag rest hfirst ih =>
    rw [EndsOpen, cutTags_of_some hfirst] at h
    rw [tags_of_some (firstTag?_append hfirst), tags_of_some hfirst, ih h, List.cons_append]

theorem spansFrom_append_of_not_endsOpen (h : ¬ EndsOpen a) :
    spansFrom n (cutTags (a ++ b)).1 =
      spansFrom n (cutTags a).1 ++ spansFrom (n + a.length) (cutTags b).1 := by
  induction a using cutTags_induction generalizing n with
  | none a hnone =>
    rw [EndsOpen, cutTags_of_none hnone] at h
    rw [spansFrom_append_of_not_mem h, cutTags_of_none hnone]
    rfl
  | some a before tag rest hfirst ih =>
    rw [EndsOpen, cutTags_of_some hfirst] at h
    have hlength := congrArg List.length (firstTag?_eq_some_iff.mp hfirst).1
    rw [List.length_append, List.length_append] at hlength
    rw [cutTags_of_some (firstTag?_append hfirst), cutTags_of_some hfirst, spansFrom, spansFrom,
      ih h, hlength, List.cons_append]
    simp only [Nat.add_assoc]

/-- A text that is left open without any tag before goes on behind its first opening angle. -/
theorem exists_open_of_none (hnone : firstTag? a = none) (h : EndsOpen a) :
    ∃ before inside, a = before ++ '<' :: inside ∧ '<' ∉ before ∧ '>' ∉ inside := by
  rw [EndsOpen, cutTags_of_none hnone] at h
  obtain ⟨before, inside, htext, hbefore⟩ := List.eq_append_cons_of_mem h
  exact ⟨before, inside, htext, hbefore, firstTag?_eq_none_iff.mp hnone _ _ htext hbefore⟩

/-- Nothing but a closing angle ends a tag that was left open. -/
theorem tags_append_of_endsOpen (h : EndsOpen a) (hb : '>' ∉ b) : tags (a ++ b) = tags a := by
  induction a using cutTags_induction with
  | none a hnone =>
    obtain ⟨before, inside, rfl, hbefore, hinside⟩ := exists_open_of_none hnone h
    rw [tags_of_none hnone, List.append_assoc, tags_append_of_not_mem hbefore]
    exact tags_eq_nil (by simp [hinside, hb])
  | some a before tag rest hfirst ih =>
    rw [EndsOpen, cutTags_of_some hfirst] at h
    rw [tags_of_some (firstTag?_append hfirst), tags_of_some hfirst, ih h]

/-- A tag that was left open reaches up to the next closing angle. -/
theorem exists_span_across (h : EndsOpen a) (hb : '>' ∈ b) :
    ∃ t ∈ spansFrom n (cutTags (a ++ b)).1, t.1 < n + a.length ∧ n + a.length < t.2 := by
  induction a using cutTags_induction generalizing n with
  | none a hnone =>
    obtain ⟨before, inside, rfl, hbefore, hinside⟩ := exists_open_of_none hnone h
    obtain ⟨more, rest, rfl, hmore⟩ := List.eq_append_cons_of_mem hb
    have hfirst : firstTag? (before ++ '<' :: inside ++ (more ++ '>' :: rest)) =
        some (before, '<' :: (inside ++ more) ++ ['>'], rest) :=
      firstTag?_eq_some_iff.mpr ⟨by simp, hbefore, inside ++ more, rfl, by simp [hinside, hmore]⟩
    rw [cutTags_of_some hfirst, spansFrom]
    refine ⟨_, List.mem_cons_self, ?_, ?_⟩ <;>
      simp only [List.length_append, List.length_cons, List.length_nil] <;> omega
  | some a before tag rest hfirst ih =>
    rw [EndsOpen, cutTags_of_some hfirst] at h
    have hlength := congrArg List.length (firstTag?_eq_some_iff.mp hfirst).1
    rw [List.length_append, List.length_append] at hlength
    obtain ⟨t, ht, hbounds⟩ := ih (n := n + before.length + tag.length) h
    rw [cutTags_of_some (firstTag?_append hfirst), spansFrom]
    exact ⟨t, List.mem_cons_of_mem _ ht, by omega, by omega⟩

/-! ## What is written in place of a placeholder -/

theorem cutTags_flatten {ts : List (List Char)} (h : ∀ t ∈ ts, IsTag t) :
    cutTags ts.flatten = (ts.map fun t => ([], t), []) := by
  induction ts with
  | nil => exact cutTags_of_none rfl
  | cons t ts ih =>
    obtain ⟨ht, hts⟩ := List.forall_mem_cons.mp h
    have hfirst : firstTag? (t ++ ts.flatten) = some ([], t, ts.flatten) :=
      firstTag?_eq_some_iff.mpr ⟨rfl, List.not_mem_nil, ht⟩
    rw [List.flatten_cons, cutTags_of_some hfirst, ih hts, List.map_cons]

/-- Tags one after the other are read as these tags. -/
theorem tags_flatten {ts : List (List Char)} (h : ∀ t ∈ ts, IsTag t) : tags ts.flatten = ts := by
  rw [tags, cutTags_flatten h, List.map_map]
  exact List.map_id ts

theorem not_endsOpen_flatten {ts : List (List Char)} (h : ∀ t ∈ ts, IsTag t) :
    ¬ EndsOpen ts.flatten := by
  rw [EndsOpen, cutTags_flatten h]
  exact List.not_mem_nil

theorem angle_not_mem_escapeChar (c : Char) : '<' ∉ escapeChar c ∧ '>' ∉ escapeChar c := by
  unfold escapeChar
  split_ifs with hamp hopen hclose hquote hapostrophe
  case neg => simp [Ne.symm hopen, Ne.symm hclose]
  all_goals decide

/-- An escaped text has no angles. -/
theorem angle_not_mem_escape (text : List Char) : '<' ∉ escape text ∧ '>' ∉ escape text := by
  simp only [escape, List.mem_flatMap, not_exists, not_and]
  exact ⟨fun c _ => (angle_not_mem_escapeChar c).1, fun c _ => (angle_not_mem_escapeChar c).2⟩

end Paperwork.Markup
