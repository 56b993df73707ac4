import Paperwork.Proofs.Expr.References
import Paperwork.Proofs.Pattern.Literal
import Paperwork.Proofs.Pattern.Replacement
import Paperwork.Proofs.Pattern.Spans

/-!
# Replacing

Matches that stand one after the other cut a text into stretches, a gap and a match each, and a last gap
(`exists_placed`). Replacing puts the expansion of each match in its place and keeps the gaps
(`stitch_placed`), so what a replacement stands for is all that changes (`replace_keeps_gaps`).
-/

namespace Paperwork

open Pattern

namespace Pattern

/-! ## Stretches of a text -/

/-- A stretch of a text: a gap, and the match behind it. -/
structure Stretch where
  gap : List Char
  matched : List Char
  found : Match

/-- The text of a stretch. -/
def Stretch.text (x : Stretch) : List Char := x.gap ++ x.matched

/-- Matches stand where their texts do, if these are the stretches of a text from a place on. -/
def Placed : Nat → List Stretch → Prop
  | _, [] => True
  | position, x :: rest => x.found.start = position + x.gap.length ∧
      x.found.stop = x.found.start + x.matched.length ∧ Placed x.found.stop rest

variable {position stop : Nat} {ms : List Match} {rest last : List Char} {stretches : List Stretch}

theorem Successive.le (h : Successive position ms stop) : position ≤ stop := by
  induction ms generalizing position with
  | nil => exact h
  | cons m ms ih => exact Nat.le_trans h.1 (Nat.le_trans h.2.1 (ih h.2.2))

/-- A text is made of the stretches that end with its matches, and of what stands behind them. -/
theorem exists_placed (h : Successive position ms (position + rest.length)) :
    ∃ stretches last, rest = stretches.flatMap Stretch.text ++ last ∧ stretches.map (·.found) = ms ∧
      Placed position stretches := by
  induction ms generalizing position rest with
  | nil => exact ⟨[], rest, rfl, rfl, trivial⟩
  | cons m ms ih =>
    obtain ⟨hstart, hle, hlater⟩ := h
    have hstop := hlater.le
    have hbehind : m.stop + (rest.drop (m.stop - position)).length = position + rest.length := by
      rw [List.length_drop]
      omega
    rw [← hbehind] at hlater
    obtain ⟨stretches, last, hparts, hms, hplaced⟩ := ih hlater
    have hcut : rest.drop (m.stop - position) =
        (rest.drop (m.start - position)).drop (m.stop - m.start) := by
      rw [List.drop_drop]
      congr 1
      omega
    refine ⟨⟨rest.take (m.start - position), (rest.drop (m.start - position)).take (m.stop - m.start),
      m⟩ :: stretches, last, ?_, by rw [List.map_cons, hms], ?_, ?_, hplaced⟩
    · rw [List.flatMap_cons, List.append_assoc, ← hparts, hcut, Stretch.text, List.append_assoc,
        List.take_append_drop, List.take_append_drop]
    · show m.start = _
      rw [List.length_take]
      omega
    · show m.stop = m.start + _
      rw [List.length_take, List.length_drop]
      omega

/-- Replacing matches keeps the gaps and what stands behind all matches. -/
theorem stitch_placed (expand : Match → List Char) (h : Placed position stretches) (last : List Char) :
    stitch expand position (stretches.flatMap Stretch.text ++ last) (stretches.map (·.found)) =
      (stretches.flatMap fun x => x.gap ++ expand x.found) ++ last := by
  induction stretches generalizing position with
  | nil => rfl
  | cons x rest ih =>
    obtain ⟨hstart, hstop, hrest⟩ := h
    have hgap : x.found.start - position = x.gap.length := by omega
    have htext : x.found.stop - position = x.text.length := by
      rw [Stretch.text, List.length_append]
      omega
    rw [List.map_cons, stitch, List.flatMap_cons, List.append_assoc x.text, htext, List.drop_left,
      ih hrest, hgap, Stretch.text, List.append_assoc x.gap, List.take_left, List.flatMap_cons]
    simp only [List.append_assoc]

/-- A match takes the characters that stand at its place. -/
theorem slice_placed (h : Placed position stretches) {gone : List Char} (hgone : gone.length = position) :
    ∀ x ∈ stretches, slice (gone ++ (stretches.flatMap Stretch.text ++ last)) x.found.start x.found.stop =
      x.matched := by
  induction stretches generalizing position gone with
  | nil => exact fun x hx => absurd hx List.not_mem_nil
  | cons y rest ih =>
    obtain ⟨hstart, hstop, hrest⟩ := h
    have hwhole : gone ++ ((y :: rest).flatMap Stretch.text ++ last) =
        (gone ++ y.gap) ++ y.matched ++ (rest.flatMap Stretch.text ++ last) := by
      simp only [List.flatMap_cons, Stretch.text, List.append_assoc]
    rw [hwhole]
    refine List.forall_mem_cons.mpr ⟨?_, ih hrest ?_⟩
    · rw [hstop, hstart, ← hgone, ← List.length_append, slice_append]
    · rw [hstop, hstart, List.length_append, List.length_append, hgone]

theorem expand_matched (p : Program) (text : List Char) (m : Match) :
    p.expand ['$', '&'] text m = slice text m.start m.stop := by
  have hreference : Reference p.groups (!p.names.isEmpty) ['&'] .matched [] := .mark rfl
  have hpieces : pieces p.groups (!p.names.isEmpty) ['$', '&'] = [.matched] := by
    rw [← pieces.eq_1 p.groups (!p.names.isEmpty)]
    exact pieces_reference hreference
  rw [Program.expand, hpieces, List.flatMap_singleton]
  rfl

theorem intercalate_gaps (w : List Char) (stretches : List Stretch) (last : List Char) :
    w.intercalate (stretches.map (·.gap) ++ [last]) = (stretches.flatMap fun x => x.gap ++ w) ++ last := by
  induction stretches with
  | nil => exact List.intercalate_singleton
  | cons x rest ih =>
    rw [List.map_cons, List.cons_append, List.intercalate_cons_of_ne_nil (by simp), ih,
      List.flatMap_cons]
    simp only [List.append_assoc]

end Pattern

namespace Expr

variable {fields : Fields} {subject pattern replacement : Expr} {s q r : String} {p : Program}

theorem eval_replace (hs : subject.eval fields = .ok (.text s))
    (hq : pattern.eval fields = .ok (.text q)) (hr : replacement.eval fields = .ok (.text r))
    (hp : Program.compile q = .ok p) :
    (replace subject pattern replacement).eval fields =
      .ok (.text (String.ofList (p.replaceAll s.toList r.toList))) := by
  have heval : (replace subject pattern replacement).eval fields = replaceIn s q r := by
    rw [eval, hs, hq, hr]
    rfl
  rw [heval, replaceIn, hp]

/--
The matches of a pattern stand one after the other in a text. Replacing them keeps every gap in its
place and puts the expansion of each match between them. So the text does not change if it has no
match, or if each match is replaced by itself; and a replacement with doubled dollar signs joins the
gaps.
-/
theorem replace_keeps_gaps (hs : subject.eval fields = .ok (.text s))
    (hq : pattern.eval fields = .ok (.text q)) (hr : replacement.eval fields = .ok (.text r))
    (hp : Program.compile q = .ok p) :
    Successive 0 (p.matches s.toList) s.toList.length ∧
    (∃ stretches last, s.toList = stretches.flatMap Stretch.text ++ last ∧ Placed 0 stretches ∧
      stretches.map (·.found) = p.matches s.toList ∧
      (replace subject pattern replacement).eval fields = .ok (.text (String.ofList
        ((stretches.flatMap fun x => x.gap ++ p.expand r.toList s.toList x.found) ++ last))) ∧
      ∀ w, r.toList = doubled w → (replace subject pattern replacement).eval fields =
        .ok (.text (String.ofList (w.intercalate (stretches.map (·.gap) ++ [last]))))) ∧
    (r = "$&" → (replace subject pattern replacement).eval fields = .ok (.text s)) ∧
    (p.matches s.toList = [] →
      (replace subject pattern replacement).eval fields = .ok (.text s)) := by
  have horder := successive_matches (closes_of_compile hp) s.toList
  have hlength : Successive 0 (p.matches s.toList) (0 + s.toList.length) := by rwa [Nat.zero_add]
  obtain ⟨stretches, last, htext, hfound, hplaced⟩ := exists_placed hlength
  have hreplaced : p.replaceAll s.toList r.toList =
      (stretches.flatMap fun x => x.gap ++ p.expand r.toList s.toList x.found) ++ last := by
    rw [← stitch_placed _ hplaced, hfound, ← htext]
    rfl
  rw [eval_replace hs hq hr hp, hreplaced]
  refine ⟨horder, ⟨stretches, last, htext, hplaced, hfound, rfl, fun w hw => ?_⟩, fun hself => ?_,
    fun hnone => ?_⟩
  · simp only [hw, expand_doubled, intercalate_gaps]
  · have hparts : ∀ x ∈ stretches, x.gap ++ p.expand r.toList s.toList x.found = x.text := by
      intro x hx
      have hslice : slice s.toList x.found.start x.found.stop = x.matched := by
        rw [htext]
        exact @slice_placed 0 last stretches hplaced [] rfl x hx
      rw [hself]
      show x.gap ++ p.expand ['$', '&'] s.toList x.found = x.text
      rw [expand_matched, hslice, Stretch.text]
    rw [List.flatMap_congr hparts, ← htext, String.ofList_toList]
  · obtain rfl : stretches = [] := List.map_eq_nil_iff.mp (hfound.trans hnone)
    have hlast : s.toList = [] ++ last := htext
    rw [List.flatMap_nil, ← hlast, String.ofList_toList]

end Expr

namespace Pattern

/-- A program for any number of the letter b. -/
def manyB : Program := .ofNode (.repeated (.text ['b']) 0 none true)

theorem compile_manyB : Program.compile "b*" = .ok manyB := by
  have htree : parse "b*" = .ok (.repeated (.letter ⟨'b', false⟩) 0 none true) := rfl
  have hlower : lower .initial (.repeated (.letter ⟨'b', false⟩) 0 none true) =
      .ok (.repeated (.text ['b']) 0 none true, .initial) := by
    rw [lower, lower_letter rfl]
    rfl
  exact compile_of_lower htree hlower (by decide +kernel)

end Pattern

namespace Expr

/-- All matches of any number of the letter b in a text, replaced by a text. -/
def replaceManyB (replacement : String) : Expr :=
  .replace (.literal (.text "abb")) (.literal (.text "b*")) (.literal (.text replacement))

/-- An empty match at the start of a text, and one of two letters at its end. -/
theorem manyB_keeps_gaps :
    Program.compile "b*" = .ok manyB ∧
      (∃ (stretches : List Stretch) (last : List Char),
        "abb".toList = stretches.flatMap Stretch.text ++ last ∧
        stretches.map (·.found) = [⟨0, 0, [some (0, 0)]⟩, ⟨1, 3, [some (1, 3)]⟩] ∧
        (replaceManyB "$$").eval .empty =
          .ok (.text (String.ofList (['$'].intercalate (stretches.map (·.gap) ++ [last]))))) ∧
      (replaceManyB "$&").eval .empty = .ok (.text "abb") := by
  have hmatches : manyB.matches "abb".toList = [⟨0, 0, [some (0, 0)]⟩, ⟨1, 3, [some (1, 3)]⟩] := by cbv
  have hjoined : ∀ r : String, _ := fun r =>
    @replace_keeps_gaps .empty (.literal (.text "abb")) (.literal (.text "b*")) (.literal (.text r))
      _ _ r manyB rfl rfl rfl compile_manyB
  obtain ⟨-, ⟨stretches, last, htext, -, hfound, -, hdollar⟩, -⟩ := hjoined "$$"
  obtain ⟨-, -, hself, -⟩ := hjoined "$&"
  exact ⟨compile_manyB, ⟨stretches, last, htext, hfound.trans hmatches, hdollar ['$'] rfl⟩, hself rfl⟩

end Expr

end Paperwork
