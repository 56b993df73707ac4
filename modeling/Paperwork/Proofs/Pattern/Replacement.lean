import Mathlib.Data.List.Forall2
import Paperwork.Pattern.Replacement
import Paperwork.Proofs.Text.Pieces

/-!
# Reading replacements

A replacement is read from left to right: a dollar sign with what belongs to it refers to the match
or to a group (`Reference`), and everything else stands for itself (`Reads`). There is one such
reading (`Reads.unique`), `pieces` finds it (`reads_pieces`), and what a replacement expands to is
what its pieces stand for, one after the other (`expand_eq`).
-/

namespace Paperwork.Pattern

/-! ## Digits -/

theorem digit?_digitChar {n : Nat} (h : n < 10) : digit? n.digitChar = some n := by
  have hall : ∀ n < 10, digit? n.digitChar = some n := by decide
  exact hall n h

theorem exists_of_digit? {c : Char} {n : Nat} (h : digit? c = some n) : n < 10 ∧ c = n.digitChar := by
  unfold digit? at h
  split at h
  · rename_i hc
    cases h
    have hlow : 48 ≤ c.toNat := hc.1
    have hhigh : c.toNat ≤ 57 := hc.2
    have hall : ∀ k < 10, Char.ofNat (48 + k) = k.digitChar := by decide
    have hdigit := hall (c.toNat - 48) (by omega)
    rw [Nat.add_sub_cancel' hlow, Char.ofNat_toNat] at hdigit
    exact ⟨by omega, hdigit⟩
  · cases h

/-! ## References -/

/-- What a mark behind a dollar sign stands for. -/
def mark? : Char → Option Piece
  | '$' => some (.char '$')
  | '&' => some .matched
  | '\x60' => some .textBefore
  | '\'' => some .textAfter
  | _ => none

/--
What behind a dollar sign belongs to it, in view of the characters that follow: a mark, the number
of a group in two digits, in one digit unless two of them name a group, or a name in angles if some
group has a name.
-/
inductive Reference (groups : Nat) (hasNames : Bool) : List Char → Piece → List Char → Prop
  | mark {c : Char} {piece : Piece} {rest : List Char} (h : mark? c = some piece) :
      Reference groups hasNames [c] piece rest
  | twoDigits {m n : Nat} {rest : List Char} (hm : m < 10) (hn : n < 10) (pos : 1 ≤ m * 10 + n)
      (lt : m * 10 + n < groups) :
      Reference groups hasNames [m.digitChar, n.digitChar] (.group (m * 10 + n)) rest
  | oneDigit {n : Nat} {rest : List Char} (hn : n < 10) (pos : 1 ≤ n) (lt : n < groups)
      (single : ∀ k < 10, rest.head? = some k.digitChar → groups ≤ n * 10 + k) :
      Reference groups hasNames [n.digitChar] (.group n) rest
  | named {name rest : List Char} (names : hasNames = true) (h : '>' ∉ name) :
      Reference groups hasNames ('<' :: name ++ ['>']) (.named name) rest

/-- The reading of a replacement: what is written and the piece that it stands for, in order. -/
inductive Reads (groups : Nat) (hasNames : Bool) : List Char → List (List Char × Piece) → Prop
  | done : Reads groups hasNames [] []
  | plain {c : Char} {rest : List Char} {tokens : List (List Char × Piece)} (h : c ≠ '$')
      (others : Reads groups hasNames rest tokens) :
      Reads groups hasNames (c :: rest) (([c], .char c) :: tokens)
  | reference {written rest : List Char} {piece : Piece} {tokens : List (List Char × Piece)}
      (h : Reference groups hasNames written piece rest)
      (others : Reads groups hasNames rest tokens) :
      Reads groups hasNames ('$' :: (written ++ rest)) (('$' :: written, piece) :: tokens)
  | dollar {rest : List Char} {tokens : List (List Char × Piece)}
      (h : ∀ written piece behind, rest = written ++ behind →
        ¬ Reference groups hasNames written piece behind)
      (others : Reads groups hasNames rest tokens) :
      Reads groups hasNames ('$' :: rest) ((['$'], .char '$') :: tokens)

section Readings

variable {groups : Nat} {hasNames : Bool} {cs rest written behind : List Char} {piece other : Piece}
  {tokens others : List (List Char × Piece)}

theorem mark?_digitChar {n : Nat} (h : n < 10) : mark? n.digitChar = none := by
  have hall : ∀ n < 10, mark? n.digitChar = none := by decide
  exact hall n h

theorem digitChar_ne_angle {n : Nat} (h : n < 10) : n.digitChar ≠ '<' := by
  have hall : ∀ n < 10, n.digitChar ≠ '<' := by decide
  exact hall n h

theorem digitChar_inj {m n : Nat} (hm : m < 10) (hn : n < 10) (h : m.digitChar = n.digitChar) :
    m = n := by
  have hdigit := digit?_digitChar hm
  rw [h, digit?_digitChar hn, Option.some.injEq] at hdigit
  exact hdigit.symm

/-- What belongs to a dollar sign is told by the characters behind it. -/
theorem Reference.unique {written' behind' : List Char} (h : Reference groups hasNames written piece behind)
    (hother : Reference groups hasNames written' other behind')
    (heq : written ++ behind = written' ++ behind') :
    written = written' ∧ piece = other ∧ behind = behind' := by
  cases h with
  | mark hmark =>
    cases hother with
    | mark hmark' =>
      obtain ⟨rfl, rfl⟩ := List.cons.inj heq
      rw [hmark] at hmark'
      cases hmark'
      exact ⟨rfl, rfl, rfl⟩
    | twoDigits hm | oneDigit hm =>
      obtain ⟨rfl, -⟩ := List.cons.inj heq
      rw [mark?_digitChar hm] at hmark
      cases hmark
    | named =>
      obtain ⟨rfl, -⟩ := List.cons.inj heq
      cases hmark
  | @twoDigits m n _ hm hn pos lt =>
    cases hother with
    | mark hmark =>
      obtain ⟨rfl, -⟩ := List.cons.inj heq
      rw [mark?_digitChar hm] at hmark
      cases hmark
    | twoDigits hm' hn' =>
      obtain ⟨hfirst, hrest⟩ := List.cons.inj heq
      obtain ⟨hsecond, rfl⟩ := List.cons.inj hrest
      obtain rfl := digitChar_inj hm hm' hfirst
      obtain rfl := digitChar_inj hn hn' hsecond
      exact ⟨rfl, rfl, rfl⟩
    | oneDigit hn' pos' lt' single =>
      obtain ⟨hfirst, rfl⟩ := List.cons.inj heq
      obtain rfl := digitChar_inj hm hn' hfirst
      exact absurd (single n hn rfl) (Nat.not_le_of_lt lt)
    | named => exact absurd (List.cons.inj heq).1 (digitChar_ne_angle hm)
  | @oneDigit n _ hn pos lt single =>
    cases hother with
    | mark hmark =>
      obtain ⟨rfl, -⟩ := List.cons.inj heq
      rw [mark?_digitChar hn] at hmark
      cases hmark
    | @twoDigits m k _ hm hk pos' lt' =>
      obtain ⟨hfirst, rfl⟩ := List.cons.inj heq
      obtain rfl := digitChar_inj hn hm hfirst
      exact absurd (single k hk rfl) (Nat.not_le_of_lt lt')
    | oneDigit hn' =>
      obtain ⟨hfirst, rfl⟩ := List.cons.inj heq
      obtain rfl := digitChar_inj hn hn' hfirst
      exact ⟨rfl, rfl, rfl⟩
    | named => exact absurd (List.cons.inj heq).1 (digitChar_ne_angle hn)
  | @named name _ names hname =>
    cases hother with
    | mark hmark =>
      obtain ⟨rfl, -⟩ := List.cons.inj heq
      cases hmark
    | twoDigits hm | oneDigit hm => exact absurd (List.cons.inj heq).1.symm (digitChar_ne_angle hm)
    | @named name' _ _ hname' =>
      have htail : name ++ '>' :: behind = name' ++ '>' :: behind' := by simpa using heq
      have hcut : splitFirst ['>'] (name ++ '>' :: behind) = some (name, behind) :=
        splitFirst_singleton_eq_some_iff.mpr ⟨rfl, hname⟩
      have hcut' : splitFirst ['>'] (name ++ '>' :: behind) = some (name', behind') :=
        splitFirst_singleton_eq_some_iff.mpr ⟨htail, hname'⟩
      rw [hcut] at hcut'
      cases hcut'
      exact ⟨rfl, rfl, rfl⟩

/-- A replacement has one reading. -/
theorem Reads.unique (h : Reads groups hasNames cs tokens) (hothers : Reads groups hasNames cs others) :
    others = tokens := by
  induction h generalizing others with
  | done =>
    cases hothers
    rfl
  | plain hc _ ih =>
    cases hothers with
    | plain _ hothers => rw [ih hothers]
    | reference => exact absurd rfl hc
    | dollar => exact absurd rfl hc
  | reference hreference _ ih =>
    generalize hcs : '$' :: (_ ++ _) = cs at hothers
    cases hothers with
    | done => cases hcs
    | plain hc => exact absurd (List.cons.inj hcs).1.symm hc
    | reference hreference' hothers =>
      obtain ⟨rfl, rfl, rfl⟩ := hreference.unique hreference' (List.cons.inj hcs).2
      rw [ih hothers]
    | dollar hnone => exact absurd hreference (hnone _ _ _ (List.cons.inj hcs).2.symm)
  | dollar hnone _ ih =>
    generalize hcs : '$' :: _ = cs at hothers
    cases hothers with
    | done => cases hcs
    | plain hc => exact absurd (List.cons.inj hcs).1.symm hc
    | reference hreference => exact absurd hreference (hnone _ _ _ (List.cons.inj hcs).2)
    | dollar _ hothers =>
      obtain rfl := (List.cons.inj hcs).2
      rw [ih hothers]

/-- Every character is read, in its place. -/
theorem Reads.flatMap_written (h : Reads groups hasNames cs tokens) :
    tokens.flatMap (·.1) = cs ∧ ∀ token ∈ tokens, token.1 ≠ [] := by
  induction h with
  | done => exact ⟨rfl, fun _ h => absurd h List.not_mem_nil⟩
  | plain _ _ ih | dollar _ _ ih =>
    refine ⟨?_, List.forall_mem_cons.mpr ⟨List.cons_ne_nil _ _, ih.2⟩⟩
    rw [List.flatMap_cons, ih.1]
    rfl
  | reference _ _ ih =>
    refine ⟨?_, List.forall_mem_cons.mpr ⟨List.cons_ne_nil _ _, ih.2⟩⟩
    rw [List.flatMap_cons, ih.1]
    rfl

/-! ## The reading that is found -/

theorem untilAngle_eq (cs : List Char) : untilAngle cs = splitFirst ['>'] cs := by
  induction cs with
  | nil => rfl
  | cons c rest ih =>
    rw [untilAngle]
    by_cases hc : c = '>'
    · rw [if_pos hc, splitFirst_cons_of_start (hc ▸ ⟨rest, rfl⟩)]
      rfl
    · have hstart : ¬ ['>'] <+: c :: rest := fun h => hc (List.cons_prefix_cons.mp h).1.symm
      rw [if_neg hc, splitFirst_cons_of_not_start hstart, ih]

theorem ne_of_mark?_eq_none {c : Char} (h : mark? c = none) :
    c ≠ '$' ∧ c ≠ '&' ∧ c ≠ '\x60' ∧ c ≠ '\'' := by
  refine ⟨?_, ?_, ?_, ?_⟩
  all_goals
    rintro rfl
    cases h

theorem pieces_plain {c : Char} (h : c ≠ '$') :
    pieces groups hasNames (c :: rest) = .char c :: pieces groups hasNames rest :=
  (pieces.eq_def groups hasNames (c :: rest)).trans (if_pos h)

/-- What is read behind a dollar sign that no mark follows. -/
theorem pieces_of_mark?_eq_none {d : Char} {more : List Char} (h : mark? d = none) :
    pieces groups hasNames ('$' :: d :: more) =
      if d = '<' ∧ hasNames = true then
        match splitFirst ['>'] more with
        | some (name, after) => .named name :: pieces groups hasNames after
        | none => .char '$' :: pieces groups hasNames (d :: more)
      else match more.head?.bind (twoDigits? groups d) with
        | some n => .group n :: pieces groups hasNames more.tail
        | none => match oneDigit? groups d with
          | some n => .group n :: pieces groups hasNames more
          | none => .char '$' :: pieces groups hasNames (d :: more) := by
  obtain ⟨hdollar, hmatched, hbefore, hafter⟩ := ne_of_mark?_eq_none h
  rw [pieces.eq_3, if_neg (not_not.mpr rfl), if_neg hdollar, if_neg hmatched, if_neg hbefore,
    if_neg hafter, ← untilAngle_eq]
  split
  · split <;> rename_i heq <;> simp only [heq]
  · rfl

theorem oneDigit?_eq_some_iff {c : Char} {n : Nat} :
    oneDigit? groups c = some n ↔ n < 10 ∧ c = n.digitChar ∧ 1 ≤ n ∧ n < groups := by
  unfold oneDigit? isGroup
  constructor
  · intro h
    split at h
    · rename_i a ha
      obtain ⟨hlt, rfl⟩ := exists_of_digit? ha
      obtain ⟨hgroup, heq⟩ := Option.ite_none_right_eq_some.mp h
      cases heq
      exact ⟨hlt, rfl, by simpa using hgroup⟩
    · cases h
  · rintro ⟨hlt, rfl, hpos, hgroups⟩
    simp [digit?_digitChar hlt, hpos, hgroups]

theorem twoDigits?_eq_some_iff {c d : Char} {n : Nat} :
    twoDigits? groups c d = some n ↔ ∃ a b, a < 10 ∧ b < 10 ∧ c = a.digitChar ∧ d = b.digitChar ∧
      n = a * 10 + b ∧ 1 ≤ n ∧ n < groups := by
  unfold twoDigits? isGroup
  constructor
  · intro h
    split at h
    · rename_i a b ha hb
      obtain ⟨halt, rfl⟩ := exists_of_digit? ha
      obtain ⟨hblt, rfl⟩ := exists_of_digit? hb
      obtain ⟨hgroup, heq⟩ := Option.ite_none_right_eq_some.mp h
      cases heq
      exact ⟨a, b, halt, hblt, rfl, rfl, rfl, by simpa using hgroup⟩
    · cases h
  · rintro ⟨a, b, halt, hblt, rfl, rfl, rfl, hpos, hgroups⟩
    simp only [digit?_digitChar halt, digit?_digitChar hblt]
    rw [if_pos (by simpa using ⟨hpos, hgroups⟩)]

theorem pieces_reference (h : Reference groups hasNames written piece rest) :
    pieces groups hasNames ('$' :: (written ++ rest)) = piece :: pieces groups hasNames rest := by
  cases h with
  | @mark c piece rest hmark =>
    unfold mark? at hmark
    split at hmark <;> cases hmark
    all_goals
      rw [List.singleton_append, pieces.eq_3]
      rfl
  | @twoDigits m n rest hm hn pos lt =>
    have hpair : twoDigits? groups m.digitChar n.digitChar = some (m * 10 + n) :=
      twoDigits?_eq_some_iff.mpr ⟨m, n, hm, hn, rfl, rfl, rfl, pos, lt⟩
    have hangle : ¬ (m.digitChar = '<' ∧ hasNames = true) := fun h => digitChar_ne_angle hm h.1
    rw [List.cons_append, List.singleton_append, pieces_of_mark?_eq_none (mark?_digitChar hm),
      if_neg hangle, List.head?_cons, Option.bind_some, hpair]
    rfl
  | @oneDigit n rest hn pos lt single =>
    have hone : oneDigit? groups n.digitChar = some n :=
      oneDigit?_eq_some_iff.mpr ⟨hn, rfl, pos, lt⟩
    have hpair : rest.head?.bind (twoDigits? groups n.digitChar) = none := by
      rw [Option.eq_none_iff_forall_ne_some]
      intro k hk
      obtain ⟨d, hd, hk⟩ := Option.bind_eq_some_iff.mp hk
      obtain ⟨a, b, ha, hb, hna, rfl, rfl, -, hgroups⟩ := twoDigits?_eq_some_iff.mp hk
      obtain rfl := digitChar_inj hn ha hna
      exact absurd (single b hb hd) (Nat.not_le_of_lt hgroups)
    have hangle : ¬ (n.digitChar = '<' ∧ hasNames = true) := fun h => digitChar_ne_angle hn h.1
    rw [List.singleton_append, pieces_of_mark?_eq_none (mark?_digitChar hn), if_neg hangle, hpair,
      hone]
  | @named name rest names hname =>
    have hcut : splitFirst ['>'] (name ++ '>' :: rest) = some (name, rest) :=
      splitFirst_singleton_eq_some_iff.mpr ⟨rfl, hname⟩
    rw [List.append_assoc, List.cons_append, List.singleton_append, pieces_of_mark?_eq_none rfl,
      if_pos ⟨rfl, names⟩, hcut]

/-- A dollar sign to which nothing belongs stands for itself. -/
theorem pieces_dollar (h : ∀ written piece behind, rest = written ++ behind →
    ¬ Reference groups hasNames written piece behind) :
    pieces groups hasNames ('$' :: rest) = .char '$' :: pieces groups hasNames rest := by
  cases rest with
  | nil => rw [pieces.eq_2, if_neg (not_not.mpr rfl), pieces.eq_1]
  | cons d more =>
    have hmark : mark? d = none := by
      rw [Option.eq_none_iff_forall_ne_some]
      exact fun piece hpiece => h [d] piece more rfl (.mark hpiece)
    rw [pieces_of_mark?_eq_none hmark]
    split
    · rename_i hangle
      obtain ⟨rfl, hnames⟩ := hangle
      split
      · rename_i name after hcut
        obtain ⟨rfl, hname⟩ := splitFirst_singleton_eq_some_iff.mp hcut
        exact absurd (.named hnames hname) (h ('<' :: name ++ ['>']) _ after (by simp))
      · rfl
    · have hpair : more.head?.bind (twoDigits? groups d) = none := by
        rw [Option.eq_none_iff_forall_ne_some]
        intro k hk
        obtain ⟨e, he, hk⟩ := Option.bind_eq_some_iff.mp hk
        obtain ⟨a, b, ha, hb, rfl, rfl, rfl, hpos, hgroups⟩ := twoDigits?_eq_some_iff.mp hk
        obtain ⟨behind, rfl⟩ := List.head?_eq_some_iff.mp he
        exact h [a.digitChar, b.digitChar] _ behind rfl (.twoDigits ha hb hpos hgroups)
      have hone : oneDigit? groups d = none := by
        rw [Option.eq_none_iff_forall_ne_some]
        intro n hn
        obtain ⟨hlt, rfl, hpos, hgroups⟩ := oneDigit?_eq_some_iff.mp hn
        refine h [n.digitChar] _ more rfl (.oneDigit hlt hpos hgroups fun k hk hhead => ?_)
        -- with a second digit that makes the number of a group, both would have been read
        by_contra hbelow
        rw [hhead, Option.bind_some] at hpair
        have hsome : twoDigits? groups n.digitChar k.digitChar = some (n * 10 + k) :=
          twoDigits?_eq_some_iff.mpr ⟨n, k, hlt, hk, rfl, rfl, rfl, by omega, by omega⟩
        rw [hpair] at hsome
        cases hsome
      rw [hpair, hone]

/-- Every replacement has a reading, and its pieces are those that are found. -/
theorem reads_pieces (groups : Nat) (hasNames : Bool) (cs : List Char) :
    ∃ tokens, Reads groups hasNames cs tokens ∧ tokens.map (·.2) = pieces groups hasNames cs := by
  induction hn : cs.length using Nat.strongRecOn generalizing cs with
  | ind n ih =>
    cases cs with
    | nil => exact ⟨[], .done, (pieces.eq_1 _ _).symm⟩
    | cons c rest =>
      rw [List.length_cons] at hn
      by_cases hc : c = '$'
      · subst hc
        by_cases hreference : ∃ written piece behind, rest = written ++ behind ∧
            Reference groups hasNames written piece behind
        · obtain ⟨written, piece, behind, rfl, hreference⟩ := hreference
          rw [List.length_append] at hn
          obtain ⟨tokens, hreads, hpieces⟩ := ih behind.length (by omega) behind rfl
          refine ⟨_, .reference hreference hreads, ?_⟩
          rw [pieces_reference hreference, List.map_cons, hpieces]
        · have hnone : ∀ written piece behind, rest = written ++ behind →
              ¬ Reference groups hasNames written piece behind :=
            fun written piece behind heq h => hreference ⟨written, piece, behind, heq, h⟩
          obtain ⟨tokens, hreads, hpieces⟩ := ih rest.length (by omega) rest rfl
          refine ⟨_, .dollar hnone hreads, ?_⟩
          rw [pieces_dollar hnone, List.map_cons, hpieces]
      · obtain ⟨tokens, hreads, hpieces⟩ := ih rest.length (by omega) rest rfl
        refine ⟨_, .plain hc hreads, ?_⟩
        rw [pieces_plain hc, List.map_cons, hpieces]

end Readings

/-! ## What a reading stands for -/

/-- The text that a group has taken, if it took part in a match, as a part of the whole text. -/
inductive Captured (text : List Char) : Option (Nat × Nat) → Option (List Char) → Prop
  | absent : Captured text none none
  | present {a s b : List Char} (h : text = a ++ s ++ b) :
      Captured text (some (a.length, a.length + s.length)) (some s)

/-- The texts of a match: what stands before it, itself, what stands after it, and its groups. -/
structure Excerpt where
  before : List Char
  matched : List Char
  after : List Char
  groups : List (Option (List Char))

namespace Excerpt

/-- The text in which the match stands. -/
def text (x : Excerpt) : List Char := x.before ++ x.matched ++ x.after

/-- The text of a group; a group that took no part has none. -/
def group (x : Excerpt) (n : Nat) : List Char := x.groups[n]?.join.getD []

/-- A match has these texts. -/
structure IsAt (x : Excerpt) (m : Match) : Prop where
  start : m.start = x.before.length
  stop : m.stop = x.before.length + x.matched.length
  groups : List.Forall₂ (Captured x.text) m.groups x.groups

end Excerpt

/-- What a piece stands for, given the texts of a match and the numbers of the groups with names. -/
def Piece.meaning (names : List (String × Nat)) (x : Excerpt) : Piece → List Char
  | char c => [c]
  | matched => x.matched
  | textBefore => x.before
  | textAfter => x.after
  | group n => x.group n
  | named name => match names.lookup (String.ofList name) with
    | some n => x.group n
    | none => []

section Expansion

variable {x : Excerpt} {m : Match}

theorem slice_append (a s b : List Char) : slice (a ++ s ++ b) a.length (a.length + s.length) = s := by
  rw [slice, ← List.length_append, List.take_left, List.drop_left]

theorem groupText_eq (h : x.IsAt m) (n : Nat) : groupText x.text m n = x.group n := by
  unfold groupText Excerpt.group
  by_cases hn : n < m.groups.length
  · have hlength : n < x.groups.length := h.groups.length_eq ▸ hn
    have hcaptured : Captured x.text m.groups[n] x.groups[n] := h.groups.get hn hlength
    rw [List.getElem?_eq_getElem hn, List.getElem?_eq_getElem hlength]
    generalize m.groups[n] = span at hcaptured
    generalize x.groups[n] = taken at hcaptured
    cases hcaptured with
    | absent => rfl
    | present htext =>
      rw [htext]
      exact slice_append _ _ _
  · rw [List.getElem?_eq_none (Nat.le_of_not_lt hn),
      List.getElem?_eq_none (h.groups.length_eq ▸ Nat.le_of_not_lt hn)]
    rfl

theorem expand_piece (h : x.IsAt m) (names : List (String × Nat)) (piece : Piece) :
    piece.expand names x.text m = piece.meaning names x := by
  cases piece with
  | char c => rfl
  | matched =>
    rw [Piece.expand, h.start, h.stop, Excerpt.text, slice_append, Piece.meaning]
  | textBefore =>
    rw [Piece.expand, h.start, Excerpt.text, List.append_assoc, List.take_left, Piece.meaning]
  | textAfter =>
    rw [Piece.expand, h.stop, Excerpt.text, ← List.length_append, List.drop_left, Piece.meaning]
  | group n => exact groupText_eq h n
  | named name =>
    rw [Piece.expand, Piece.meaning]
    cases names.lookup (String.ofList name) with
    | none => rfl
    | some n => exact groupText_eq h n

/-- A replacement expands to what its pieces stand for. -/
theorem expand_eq (h : x.IsAt m) (p : Program) {replacement : List Char}
    {tokens : List (List Char × Piece)}
    (hreads : Reads p.groups (!p.names.isEmpty) replacement tokens) :
    p.expand replacement x.text m = tokens.flatMap fun token => token.2.meaning p.names x := by
  obtain ⟨found, hfound, hpieces⟩ := reads_pieces p.groups (!p.names.isEmpty) replacement
  obtain rfl := hreads.unique hfound
  rw [Program.expand, ← hpieces, List.flatMap_map]
  exact List.flatMap_congr fun token _ => expand_piece h p.names token.2

/-! ## Texts that stand for themselves -/

/-- A text with each dollar sign written twice. -/
def doubled (s : List Char) : List Char := s.flatMap fun c => if c = '$' then ['$', '$'] else [c]

theorem pieces_doubled (groups : Nat) (hasNames : Bool) (s : List Char) :
    pieces groups hasNames (doubled s) = s.map .char := by
  induction s with
  | nil => exact pieces.eq_1 groups hasNames
  | cons c rest ih =>
    rw [doubled, List.flatMap_cons, ← doubled]
    by_cases hc : c = '$'
    · rw [if_pos hc, hc]
      have hdollar : Reference groups hasNames ['$'] (.char '$') (doubled rest) := .mark rfl
      exact (pieces_reference hdollar).trans (by rw [ih, List.map_cons])
    · rw [if_neg hc, List.singleton_append, pieces_plain hc, ih, List.map_cons]

/-- Doubled dollar signs stand for the text in which they are not doubled. -/
theorem expand_doubled (p : Program) (s text : List Char) (m : Match) :
    p.expand (doubled s) text m = s := by
  rw [Program.expand, pieces_doubled, List.flatMap_map]
  exact List.flatMap_singleton' s

/-! ## Replacements -/

theorem isValid_rawEndPos {a b : List Char} :
    (String.ofList a).rawEndPos.IsValid (String.ofList (a ++ b)) :=
  String.Pos.Raw.isValid_ofList.mpr ⟨a.length, by rw [List.take_left]; rfl⟩

/--
A replacement has one reading, and it expands to what the pieces of this reading stand for, one
after the other. Each piece takes some characters of the replacement, so the reading ends, and what
is read lies between places where characters begin. A text with its dollar signs doubled expands to
the text.
-/
theorem expand_reads_replacement (p : Program) (replacement : List Char) (h : x.IsAt m) :
    (∃ tokens, Reads p.groups (!p.names.isEmpty) replacement tokens ∧
      (∀ others, Reads p.groups (!p.names.isEmpty) replacement others → others = tokens) ∧
      p.expand replacement x.text m = (tokens.flatMap fun token => token.2.meaning p.names x) ∧
      (∀ token ∈ tokens, token.1 ≠ []) ∧
      ∀ read unread, tokens = read ++ unread →
        replacement = read.flatMap (·.1) ++ unread.flatMap (·.1) ∧
        (String.ofList (read.flatMap (·.1))).rawEndPos.IsValid (String.ofList replacement)) ∧
    ∀ s, p.expand (doubled s) x.text m = s := by
  obtain ⟨tokens, hreads, -⟩ := reads_pieces p.groups (!p.names.isEmpty) replacement
  obtain ⟨hwritten, hne⟩ := hreads.flatMap_written
  refine ⟨⟨tokens, hreads, fun others => hreads.unique, expand_eq h p hreads, hne, ?_⟩,
    fun s => expand_doubled p s x.text m⟩
  rintro read unread rfl
  rw [List.flatMap_append] at hwritten
  rw [← hwritten]
  exact ⟨rfl, isValid_rawEndPos⟩

/-- A program for a letter with a name, and a letter that may follow it. -/
def twoLetters : Program := .ofNode (.concat [.capture 1 (some "first") (.text ['a']),
  .repeated (.capture 2 none (.text ['b'])) 0 (some 1) true])

/-- The first letter without the second one, in a text. -/
def loneLetter : Excerpt := ⟨['x'], ['a'], ['y'], [some ['a'], some ['a'], none]⟩

/-- The group that took no part gives nothing, and the numbers `10` and `0` are those of no group. -/
theorem loneLetter_reads_replacement :
    twoLetters.matches loneLetter.text = [⟨1, 2, [some (1, 2), some (1, 2), none]⟩] ∧
      loneLetter.IsAt ⟨1, 2, [some (1, 2), some (1, 2), none]⟩ ∧
      (∃ tokens, Reads 3 true "$2$10$<first>$$1$0$".toList tokens ∧
        twoLetters.expand "$2$10$<first>$$1$0$".toList loneLetter.text
            ⟨1, 2, [some (1, 2), some (1, 2), none]⟩ =
          tokens.flatMap fun token => token.2.meaning twoLetters.names loneLetter) ∧
      twoLetters.expand "$2$10$<first>$$1$0$".toList loneLetter.text
          ⟨1, 2, [some (1, 2), some (1, 2), none]⟩ = "a0a$1$0$".toList ∧
      twoLetters.expand (doubled "$2".toList) loneLetter.text
          ⟨1, 2, [some (1, 2), some (1, 2), none]⟩ = "$2".toList := by
  have hletter : Captured loneLetter.text (some (1, 2)) (some ['a']) :=
    Captured.present (a := ['x']) (b := ['y']) rfl
  have hat : loneLetter.IsAt ⟨1, 2, [some (1, 2), some (1, 2), none]⟩ :=
    ⟨rfl, rfl, .cons hletter (.cons hletter (.cons .absent .nil))⟩
  obtain ⟨⟨tokens, hreads, -, hexpand, -⟩, hdoubled⟩ :=
    expand_reads_replacement twoLetters "$2$10$<first>$$1$0$".toList hat
  exact ⟨by cbv, hat, ⟨tokens, hreads, hexpand⟩, by decide +kernel, hdoubled _⟩

end Expansion

end Paperwork.Pattern
