import Paperwork.Pattern.Replacement
import Paperwork.Proofs.Pattern.Enclosed
import Paperwork.Proofs.Pattern.Run
import Paperwork.Proofs.Word.Cut

/-!
# Placeholders as matches

A pattern of what stands between two delimiters has its matches where a text is cut
(`Delimiters.matches_eq`). Replacing them fills the places between the gaps (`Delimiters.stitch_eq`).
-/

namespace Paperwork.Delimiters

open Pattern

variable {d : Delimiters} {text rest : List Char} {c : Char}

/-! ## The first placeholder by places -/

theorem first?_of_start (h : d.start.toList <+: text) :
    d.first? text = (splitFirst d.stop.toList (text.drop d.start.toList.length)).map
      fun cut => ([], cut.1, cut.2) := by
  have hstart : splitFirst d.start.toList text =
      some ([], text.drop d.start.toList.length) := by
    cases text with
    | nil => simp [splitFirst, List.prefix_nil.mp h]
    | cons c rest => exact splitFirst_cons_of_start h
  rw [first?, hstart]
  cases hstop : splitFirst d.stop.toList (text.drop d.start.toList.length) with
  | none => simp [hstop]
  | some cut => simp [hstop]

/-- Where no placeholder opens, the first one starts further on. -/
theorem first?_cons (h : ¬ d.OpensAt (c :: rest) 0) :
    d.first? (c :: rest) = (d.first? rest).map fun cut => (c :: cut.1, cut.2) := by
  by_cases hstart : d.start.toList <+: c :: rest
  · have hnone : ∀ k, ¬ d.OpensAt (c :: rest) k := by
      rintro k ⟨-, hstop⟩
      refine h ⟨hstart, hstop.trans ?_⟩
      rw [Nat.zero_add, Nat.add_comm, ← List.drop_drop]
      exact (List.drop_suffix _ _).isInfix
    have hrest : ∀ k, ¬ d.OpensAt rest k := by
      rintro k ⟨hopen, hstop⟩
      refine hnone (k + 1) ⟨hopen, ?_⟩
      rwa [Nat.add_right_comm, List.drop_succ_cons]
    rw [first?_eq_none_iff.mpr hnone, first?_eq_none_iff.mpr hrest]
    rfl
  · rw [first?, first?, splitFirst_cons_of_not_start hstart]
    cases splitFirst d.start.toList rest with
    | none => rfl
    | some cut =>
      cases hstop : splitFirst d.stop.toList cut.2 <;> simp [hstop]

/-- A program whose ways from a place on are the placeholders that start there. -/
def Matches (d : Delimiters) (p : Program) (saves : Nat → Nat → Saves) : Prop :=
  ∀ position before after, p.first? p.start ⟨position, before, after⟩ =
    if d.start.toList.isPrefixOf after then
      (splitFirst d.stop.toList (after.drop d.start.toList.length)).map
        fun cut => saves position cut.1.length
    else none

variable {p : Program} {saves : Nat → Nat → Saves}

theorem leftmost?_eq (h : d.Matches p saves) (position : Nat) (before : Option Char)
    (after : List Char) :
    p.leftmost? position before after =
      (d.first? after).map fun cut => saves (position + cut.1.length) cut.2.1.length := by
  have hopens : ∀ position before after, d.start.toList <+: after →
      p.first? p.start ⟨position, before, after⟩ =
        (d.first? after).map fun cut => saves (position + cut.1.length) cut.2.1.length := by
    intro position before after hstart
    rw [h, if_pos (List.isPrefixOf_iff_prefix.mpr hstart), first?_of_start hstart, Option.map_map]
    rfl
  induction after generalizing position before with
  | nil =>
    rw [Program.leftmost?]
    by_cases hstart : d.start.toList <+: []
    · exact hopens position before [] hstart
    · have hnone : d.first? [] = none := first?_eq_none_iff.mpr fun k hk => by
        rw [OpensAt, List.drop_nil] at hk
        exact hstart hk.1
      rw [h, if_neg (mt List.isPrefixOf_iff_prefix.mp hstart), hnone]
      rfl
  | cons c rest ih =>
    rw [Program.leftmost?]
    by_cases hopen : d.OpensAt (c :: rest) 0
    · rw [hopens position before (c :: rest) hopen.1]
      obtain ⟨cut, hcut⟩ := Option.ne_none_iff_exists'.mp
        fun hnone => first?_eq_none_iff.mp hnone 0 hopen
      rw [hcut]
      rfl
    · have hnone : p.first? p.start ⟨position, before, c :: rest⟩ = none := by
        rw [h]
        split
        · rename_i hstart
          have hstop := mt (And.intro (List.isPrefixOf_iff_prefix.mp hstart)) hopen
          rw [Nat.zero_add] at hstop
          rw [splitFirst_eq_none_iff.mpr hstop]
          rfl
        · rfl
      rw [hnone, Option.none_or, ih, first?_cons hopen, Option.map_map]
      congr 1
      funext cut
      simp only [Function.comp_apply, List.length_cons]
      congr 1
      omega

/-! ## All placeholders -/

/-- The matches of the placeholders of a text, given what stands before and inside of each. -/
def matchesOf (d : Delimiters) (mk : Nat → Nat → Match) :
    Nat → List (List Char × List Char) → List Match
  | _, [] => []
  | position, (before, inside) :: rest =>
    let start := position + before.length
    let stop := start + d.start.toList.length + inside.length + d.stop.toList.length
    mk start inside.length :: matchesOf d mk stop rest

theorem matchesFrom_of_none {fuel position : Nat} {before : Option Char} {stop : Option Nat}
    (h : p.find? position before text = none) : matchesFrom p fuel position before text stop = [] := by
  rw [matchesFrom.eq_def]
  cases fuel with
  | zero => rfl
  | succ fuel => simp only [h]

theorem matchesFrom_of_some {fuel position : Nat} {before : Option Char} {stop : Option Nat} {m : Match}
    (h : p.find? position before text = some m) (hproper : m.start ≠ m.stop) :
    matchesFrom p (fuel + 1) position before text stop =
      m :: matchesFrom p fuel m.stop (beforeDrop before text (m.stop - position))
        (text.drop (m.stop - position)) (some m.stop) := by
  rw [matchesFrom.eq_def]
  simp only [h, beq_eq_false_iff_ne.mpr hproper, Bool.false_and, Bool.false_eq_true, if_false,
    matchesFrom.goOn]

/-- Matches as the places of placeholders and of what stands inside of them. -/
structure Places (d : Delimiters) (mk : Nat → Nat → Match) : Prop where
  start : ∀ position length, (mk position length).start = position
  stop : ∀ position length, (mk position length).stop =
    position + d.start.toList.length + length + d.stop.toList.length

variable {mk : Nat → Nat → Match} {pieces : List (List Char × List Char)} {last : List Char}

/-- A program that finds placeholders from any place on. -/
def Finds (d : Delimiters) (p : Program) (mk : Nat → Nat → Match) : Prop :=
  ∀ position before after, p.find? position before after =
    (d.first? after).map fun cut => mk (position + cut.1.length) cut.2.1.length

theorem finds_of_matches (hp : p.Descends) (h : d.Matches p saves)
    (hmk : ∀ position length, p.matchOf (saves position length) = some (mk position length)) :
    d.Finds p mk := by
  intro position before after
  rw [Program.find?_eq hp, leftmost?_eq h, Option.bind_map]
  simp only [Function.comp_def, hmk]
  cases d.first? after <;> rfl

theorem matchesFrom_eq (hd : d.areEmpty = false) (hplaces : d.Places mk) (hfind : d.Finds p mk)
    (hcut : d.IsCut text pieces last) {fuel : Nat} (hfuel : text.length < fuel) (position : Nat)
    (before : Option Char) (stop : Option Nat) :
    matchesFrom p fuel position before text stop = d.matchesOf mk position pieces := by
  induction hcut generalizing fuel position before stop with
  | done hnone =>
    exact matchesFrom_of_none (by rw [hfind, first?_eq_none_iff.mpr hnone]; rfl)
  | @next text gap inside rest last pieces hfirst hothers ih =>
    have hpos := length_pos_of_areEmpty hd
    have hlength := length_lt_of_first? hd (first?_eq_some_iff.mpr hfirst)
    have hstart := hplaces.start (position + gap.length) inside.length
    have hstop := hplaces.stop (position + gap.length) inside.length
    have hrest : text.drop ((mk (position + gap.length) inside.length).stop - position) = rest := by
      rw [hstop, hfirst.text_eq, List.drop_left']
      simp only [List.length_append]
      omega
    have hfound : p.find? position before text = some (mk (position + gap.length) inside.length) := by
      rw [hfind, first?_eq_some_iff.mpr hfirst]
      rfl
    obtain ⟨fuel, rfl⟩ := Nat.exists_eq_add_of_le' (Nat.succ_le_of_lt (Nat.zero_lt_of_lt hfuel))
    rw [matchesFrom_of_some hfound (by omega), hrest, ih (by omega), hstop, matchesOf]

/-- The matches in a text are its placeholders. -/
theorem matches_eq (hd : d.areEmpty = false) (hplaces : d.Places mk) (hfind : d.Finds p mk)
    (hcut : d.IsCut text pieces last) : p.matches text = d.matchesOf mk 0 pieces :=
  matchesFrom_eq hd hplaces hfind hcut (by omega) 0 none none

theorem IsFirst.append_text_eq {gone before inside behind : List Char}
    (h : d.IsFirst rest before inside behind) (htext : text = gone ++ rest) :
    text = (gone ++ before) ++ d.start.toList ++ inside ++ d.stop.toList ++ behind := by
  rw [htext, h.text_eq]
  simp only [List.append_assoc]

/-- What is made of the matches is made of what stands inside of the placeholders. -/
theorem map_matchesOf {α : Type} (hcut : d.IsCut rest pieces last) {g : Match → α}
    {fill : List Char → α} (gone : List Char) (htext : text = gone ++ rest)
    (hg : ∀ front inside behind,
      text = front ++ d.start.toList ++ inside ++ d.stop.toList ++ behind →
        g (mk front.length inside.length) = fill inside) :
    (d.matchesOf mk gone.length pieces).map g = pieces.map fun piece => fill piece.2 := by
  induction hcut generalizing gone with
  | done => rfl
  | @next rest gap inside behind last pieces hfirst hothers ih =>
    have hwhole := hfirst.append_text_eq htext
    have hfill := hg _ _ _ hwhole
    have hlater := ih _ hwhole
    simp only [List.length_append] at hfill hlater
    rw [matchesOf, List.map_cons, hfill, hlater, List.map_cons]

/-- Replacing matches fills the places of placeholders and keeps everything else. -/
theorem stitch_eq (hplaces : d.Places mk) (hcut : d.IsCut rest pieces last) {expand : Match → List Char}
    {fill : List Char → List Char} (gone : List Char) (htext : text = gone ++ rest)
    (hexpand : ∀ front inside behind,
      text = front ++ d.start.toList ++ inside ++ d.stop.toList ++ behind →
        expand (mk front.length inside.length) = fill inside) :
    stitch expand gone.length rest (d.matchesOf mk gone.length pieces) =
      (pieces.flatMap fun piece => piece.1 ++ fill piece.2) ++ last := by
  induction hcut generalizing gone with
  | done => rfl
  | @next rest gap inside behind last pieces hfirst hothers ih =>
    have hwhole := hfirst.append_text_eq htext
    have hfill := hexpand _ _ _ hwhole
    have hlater := ih _ hwhole
    have htake : rest.take ((mk (gone.length + gap.length) inside.length).start - gone.length) = gap := by
      rw [hplaces.start, Nat.add_sub_cancel_left, hfirst.text_eq]
      simp only [List.append_assoc, List.take_left]
    have hdrop : rest.drop ((mk (gone.length + gap.length) inside.length).stop - gone.length) = behind := by
      rw [hplaces.stop, hfirst.text_eq, List.drop_left']
      simp only [List.length_append]
      omega
    simp only [List.length_append] at hfill hlater
    rw [matchesOf, stitch, htake, hdrop, hfill, hplaces.stop, hlater, List.flatMap_cons]
    simp only [List.append_assoc]

/-- What is made of the matches in a text, placeholder by placeholder. -/
theorem map_matches {α : Type} {g : Match → α} (fill : List Char → α) (hd : d.areEmpty = false)
    (hplaces : d.Places mk) (hfind : d.Finds p mk) (hcut : d.IsCut text pieces last)
    (hg : ∀ front inside behind,
      text = front ++ d.start.toList ++ inside ++ d.stop.toList ++ behind →
        g (mk front.length inside.length) = fill inside) :
    (p.matches text).map g = pieces.map fun piece => fill piece.2 := by
  rw [matches_eq hd hplaces hfind hcut]
  exact map_matchesOf hcut [] rfl hg

/-- A text with its matches replaced, placeholder by placeholder. -/
theorem stitch_matches {expand : Match → List Char} (fill : List Char → List Char)
    (hd : d.areEmpty = false) (hplaces : d.Places mk) (hfind : d.Finds p mk)
    (hcut : d.IsCut text pieces last)
    (hexpand : ∀ front inside behind,
      text = front ++ d.start.toList ++ inside ++ d.stop.toList ++ behind →
        expand (mk front.length inside.length) = fill inside) :
    stitch expand 0 text (p.matches text) =
      (pieces.flatMap fun piece => piece.1 ++ fill piece.2) ++ last := by
  rw [matches_eq hd hplaces hfind hcut]
  exact stitch_eq hplaces hcut [] rfl hexpand

end Paperwork.Delimiters
