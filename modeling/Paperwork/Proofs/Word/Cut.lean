import Paperwork.Proofs.Text.Pieces
import Paperwork.Word.Placeholder

/-!
# Where placeholders stand

The first placeholder of a text starts at the leftmost start delimiter that an end delimiter
follows, and ends at the nearest end delimiter (`Delimiters.IsFirst`). What follows it is cut in the
same way, so a text has one cut (`Delimiters.IsCut`), and `Delimiters.cut` finds it
(`cut_eq_iff_isCut`).
-/

namespace Paperwork.Delimiters

variable {d : Delimiters} {text before inside rest : List Char}

/-- A start delimiter stands at a place, and an end delimiter somewhere behind it. -/
def OpensAt (d : Delimiters) (text : List Char) (k : Nat) : Prop :=
  d.start.toList <+: text.drop k ∧ d.stop.toList <:+: text.drop (k + d.start.toList.length)

/-- The first placeholder of a text: what stands before it, inside of it, and behind it. -/
structure IsFirst (d : Delimiters) (text before inside rest : List Char) : Prop where
  text_eq : text = before ++ d.start.toList ++ inside ++ d.stop.toList ++ rest
  leftmost : ∀ k < before.length, ¬ d.OpensAt text k
  nearest : StartsNowhere d.stop.toList (inside ++ d.stop.toList ++ rest) inside.length

/-- A text cut at its placeholders, from the first one on. -/
inductive IsCut (d : Delimiters) : List Char → List (List Char × List Char) → List Char → Prop
  | done {text : List Char} (h : ∀ k, ¬ d.OpensAt text k) : IsCut d text [] text
  | next {text before inside rest last : List Char} {pieces : List (List Char × List Char)}
      (first : d.IsFirst text before inside rest) (others : IsCut d rest pieces last) :
      IsCut d text ((before, inside) :: pieces) last

/-! ## The first placeholder -/

/-- An end delimiter stands behind every place up to the one where a start delimiter ends. -/
theorem stop_infix_drop (before inside stop behind : List Char) {k : Nat} (hk : k ≤ before.length) :
    stop <:+: (before ++ (inside ++ stop ++ behind)).drop k := by
  rw [List.drop_append_of_le_length hk]
  exact ⟨before.drop k ++ inside, behind, by simp⟩

theorem first?_eq_some_iff :
    d.first? text = some (before, inside, rest) ↔ d.IsFirst text before inside rest := by
  constructor
  · intro h
    obtain ⟨⟨a, behind⟩, hstart, h⟩ := Option.bind_eq_some_iff.mp h
    obtain ⟨⟨b, c⟩, hstop, h⟩ := Option.bind_eq_some_iff.mp h
    cases h
    obtain ⟨htext, hleft⟩ := splitFirst_eq_some_iff.mp hstart
    obtain ⟨hbehind, hnear⟩ := splitFirst_eq_some_iff.mp hstop
    refine ⟨by rw [htext, hbehind]; simp, fun k hk hopens => hleft k hk hopens.1, ?_⟩
    rwa [hbehind] at hnear
  · rintro ⟨htext, hleft, hnear⟩
    have hstart : splitFirst d.start.toList text =
        some (before, inside ++ d.stop.toList ++ rest) := by
      refine splitFirst_eq_some_iff.mpr ⟨by rw [htext]; simp, fun k hk hstarts => ?_⟩
      refine hleft k hk ⟨hstarts, ?_⟩
      have hle : k + d.start.toList.length ≤ (before ++ d.start.toList).length := by
        rw [List.length_append]
        omega
      have hstop := stop_infix_drop _ inside d.stop.toList rest hle
      rwa [← List.append_assoc, ← List.append_assoc, ← htext] at hstop
    unfold first?
    rw [hstart]
    show (splitFirst d.stop.toList (inside ++ d.stop.toList ++ rest)).bind _ = _
    rw [splitFirst_append hnear]
    rfl

/-- No placeholder is found only where no start delimiter has an end delimiter behind it. -/
theorem first?_eq_none_iff : d.first? text = none ↔ ∀ k, ¬ d.OpensAt text k := by
  constructor
  · rintro h k ⟨hstart, hstop⟩
    cases hfirst : splitFirst d.start.toList text with
    | none =>
      refine splitFirst_eq_none_iff.mp hfirst ?_
      exact hstart.isInfix.trans (List.drop_suffix k text).isInfix
    | some cut =>
      obtain ⟨a, behind⟩ := cut
      obtain ⟨htext, hleft⟩ := splitFirst_eq_some_iff.mp hfirst
      have hk : a.length ≤ k := by
        by_contra hlt
        exact hleft k (Nat.lt_of_not_le hlt) hstart
      -- the leftmost start delimiter has the same end delimiter behind it
      have hdrop : text.drop (a.length + d.start.toList.length) = behind := by
        rw [htext, ← List.length_append, List.drop_left]
      have hbehind : d.stop.toList <:+: behind := by
        refine hstop.trans ?_
        rw [← hdrop, show k + d.start.toList.length =
          a.length + d.start.toList.length + (k - a.length) by omega, ← List.drop_drop]
        exact (List.drop_suffix _ _).isInfix
      unfold first? at h
      rw [hfirst] at h
      change (splitFirst d.stop.toList behind).bind _ = none at h
      obtain ⟨⟨b, c⟩, hsome⟩ := Option.isSome_iff_exists.mp (splitFirst_isSome_of_contains hbehind)
      rw [hsome] at h
      cases h
  · intro h
    rw [Option.eq_none_iff_forall_ne_some]
    rintro ⟨a, b, c⟩ hsome
    have hfirst := first?_eq_some_iff.mp hsome
    refine h a.length ⟨?_, ?_⟩
    · rw [hfirst.text_eq, List.append_assoc, List.append_assoc, List.append_assoc, List.drop_left]
      exact List.prefix_append _ _
    · have hle : a.length + d.start.toList.length ≤ (a ++ d.start.toList).length := by
        rw [List.length_append]
      have hstop := stop_infix_drop _ b d.stop.toList c hle
      rwa [← List.append_assoc, ← List.append_assoc, ← hfirst.text_eq] at hstop

/-! ## The whole cut -/

theorem cutAll_of_none (hd : d.areEmpty = false) (h : d.first? text = none) :
    d.cutAll hd text = ⟨[], text⟩ := by
  rw [cutAll]
  split
  · rfl
  · rename_i hsome
    rw [h] at hsome
    cases hsome

theorem cutAll_of_some (hd : d.areEmpty = false)
    (h : d.first? text = some (before, inside, rest)) :
    d.cutAll hd text =
      ⟨(before, inside) :: (d.cutAll hd rest).pieces, (d.cutAll hd rest).last⟩ := by
  rw [cutAll]
  split
  · rename_i hnone
    rw [h] at hnone
    cases hnone
  · rename_i hsome
    rw [h] at hsome
    cases hsome
    rfl

theorem isCut_cutAll (hd : d.areEmpty = false) (text : List Char) :
    d.IsCut text (d.cutAll hd text).pieces (d.cutAll hd text).last := by
  cases hfirst : d.first? text with
  | none =>
    rw [cutAll_of_none hd hfirst]
    exact .done (first?_eq_none_iff.mp hfirst)
  | some cut =>
    obtain ⟨before, inside, rest⟩ := cut
    have hlength := length_lt_of_first? hd hfirst
    rw [cutAll_of_some hd hfirst]
    exact .next (first?_eq_some_iff.mp hfirst) (isCut_cutAll hd rest)
termination_by text.length

theorem IsCut.cutAll_eq {pieces : List (List Char × List Char)} {last : List Char}
    (h : d.IsCut text pieces last) (hd : d.areEmpty = false) : d.cutAll hd text = ⟨pieces, last⟩ := by
  induction h with
  | done hnone => exact cutAll_of_none hd (first?_eq_none_iff.mpr hnone)
  | next hfirst _ ih => rw [cutAll_of_some hd (first?_eq_some_iff.mpr hfirst), ih]

/-- A text has one cut at its placeholders, and this is how it is cut. -/
theorem cut_eq_iff_isCut (hd : d.areEmpty = false) {c : Cut} :
    d.cut text = c ↔ d.IsCut text c.pieces c.last := by
  rw [cut, dif_pos hd]
  constructor
  · rintro rfl
    exact isCut_cutAll hd text
  · intro h
    rw [h.cutAll_eq hd]

theorem areEmpty_of_start_ne (h : d.start ≠ "") : d.areEmpty = false := by
  have hstart : d.start.toList ≠ [] := fun hnil => h (String.toList_eq_nil_iff.mp hnil)
  rw [areEmpty, List.isEmpty_eq_false_iff.mpr hstart, Bool.false_and]

/-! ## A placeholder between two texts -/

/-- No start delimiter is left open in a text, not even one that more text would complete. -/
def IsClosed (d : Delimiters) (text : List Char) : Prop :=
  StartsNowhere d.start.toList ((d.cut text).last ++ d.start.toList) (d.cut text).last.length

/-- The first placeholder of a text is the first one also when more text follows. -/
theorem IsFirst.append (h : d.IsFirst text before inside rest) (more : List Char) :
    d.IsFirst (text ++ more) before inside (rest ++ more) := by
  refine ⟨by rw [h.text_eq]; simp, fun k hk hopens => ?_, ?_⟩
  · have hlength := congrArg List.length h.text_eq
    simp only [List.length_append] at hlength
    refine h.leftmost k hk ⟨prefix_drop_of_append hopens.1 (by omega), ?_⟩
    have hbehind : k + d.start.toList.length ≤ (before ++ d.start.toList).length := by
      rw [List.length_append]
      omega
    have hstop := stop_infix_drop (before ++ d.start.toList) inside d.stop.toList rest hbehind
    rw [h.text_eq]
    simpa only [List.append_assoc] using hstop
  · have hnearest := h.nearest.append (by simp only [List.length_append]; omega) more
    simpa only [List.append_assoc] using hnearest

variable {pieces later : List (List Char × List Char)} {last behind more : List Char}

/-- A placeholder behind a closed text is cut off where it stands. -/
theorem isCut_around (hcut : d.IsCut text pieces last)
    (hclosed : StartsNowhere d.start.toList (last ++ d.start.toList) last.length)
    (hinside : StartsNowhere d.stop.toList (inside ++ d.stop.toList) inside.length)
    (hbehind : d.IsCut behind later more) :
    d.IsCut (text ++ d.start.toList ++ inside ++ d.stop.toList ++ behind)
      (pieces ++ (last, inside) :: later) more := by
  induction hcut with
  | @done text hnone =>
    refine .next ⟨rfl, fun k hk hopens => ?_, ?_⟩ hbehind
    · have hstart := hclosed.append (by simp) (inside ++ d.stop.toList ++ behind)
      refine hstart k hk ?_
      simpa only [List.append_assoc] using hopens.1
    · exact hinside.append (by simp) behind
  | @next text gap inner rest last pieces hfirst _ ih =>
    have hwhole := hfirst.append (d.start.toList ++ inside ++ d.stop.toList ++ behind)
    simp only [← List.append_assoc] at hwhole
    exact .next hwhole (ih hclosed)

theorem cut_around (hd : d.areEmpty = false) (hclosed : d.IsClosed text)
    (hinside : StartsNowhere d.stop.toList (inside ++ d.stop.toList) inside.length) :
    d.cut (text ++ d.start.toList ++ inside ++ d.stop.toList ++ behind) =
      ⟨(d.cut text).pieces ++ ((d.cut text).last, inside) :: (d.cut behind).pieces,
        (d.cut behind).last⟩ := by
  have htext : d.IsCut text (d.cut text).pieces (d.cut text).last := (cut_eq_iff_isCut hd).mp rfl
  have hlater : d.IsCut behind (d.cut behind).pieces (d.cut behind).last :=
    (cut_eq_iff_isCut hd).mp rfl
  exact (cut_eq_iff_isCut hd).mpr (isCut_around htext hclosed hinside hlater)

/-- A text without the first character of the start delimiter is not cut. -/
theorem cut_of_not_mem {c : Char} {others : List Char} (hstart : d.start.toList = c :: others)
    (h : c ∉ text) : d.cut text = ⟨[], text⟩ := by
  have hd : d.areEmpty = false := by rw [areEmpty, hstart, List.isEmpty_cons, Bool.false_and]
  refine (cut_eq_iff_isCut hd).mpr (.done fun k hopens => h ?_)
  obtain ⟨behind, hbehind⟩ := hopens.1
  have hmem : c ∈ text.drop k := by
    rw [← hbehind, hstart]
    exact List.mem_cons_self
  exact List.mem_of_mem_drop hmem

theorem isClosed_of_not_mem {c : Char} {others : List Char} (hstart : d.start.toList = c :: others)
    (h : c ∉ text) : d.IsClosed text := by
  unfold IsClosed
  rw [cut_of_not_mem hstart h, hstart]
  exact startsNowhere_of_not_mem h _

end Paperwork.Delimiters
