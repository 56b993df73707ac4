import Paperwork.Pattern.Search

/-!
# Replacements

A replacement text is read left to right into pieces: a dollar sign with what follows it may stand
for the match, its surroundings or a group, and stands for itself otherwise. Replacing writes the
expanded pieces in place of each match and keeps everything between the matches.
-/

namespace Paperwork.Pattern

/-! ## Pieces -/

/-- A piece of a replacement. -/
inductive Piece where
  | char (c : Char)
  | matched
  | textBefore
  | textAfter
  | group (index : Nat)
  | named (name : List Char)
deriving DecidableEq, Repr

/-- The characters up to the first closing angle, and those after it. -/
def untilAngle : List Char → Option (List Char × List Char)
  | [] => none
  | c :: rest =>
    if c = '>' then some ([], rest) else (untilAngle rest).map fun (a, b) => (c :: a, b)

theorem length_of_untilAngle {cs name rest : List Char}
    (h : untilAngle cs = some (name, rest)) : rest.length < cs.length := by
  induction cs generalizing name rest with
  | nil => simp [untilAngle] at h
  | cons c cs ih =>
    unfold untilAngle at h
    split at h
    · simp only [Option.some.injEq, Prod.mk.injEq] at h
      simp [h.2]
    · obtain ⟨⟨a, b⟩, hab, heq⟩ := Option.map_eq_some_iff.1 h
      simp only [Prod.mk.injEq] at heq
      have := ih hab
      simp only [List.length_cons, ← heq.2]
      omega

/-- The value of a decimal digit. -/
def digit? (c : Char) : Option Nat :=
  if '0' ≤ c ∧ c ≤ '9' then some (c.toNat - 48) else none

/-- Whether a pattern has a group of a number, the whole match not counted. -/
def isGroup (groups n : Nat) : Bool := 1 ≤ n && n < groups

/-- The group that a two-digit number names. -/
def twoDigits? (groups : Nat) (c d : Char) : Option Nat :=
  match digit? c, digit? d with
  | some c, some d => if isGroup groups (c * 10 + d) then some (c * 10 + d) else none
  | _, _ => none

/-- The group that a one-digit number names. -/
def oneDigit? (groups : Nat) (c : Char) : Option Nat :=
  match digit? c with
  | some c => if isGroup groups c then some c else none
  | none => none

/--
The pieces of a replacement for a pattern with a count of groups, the whole match among them.
Names in angles are read only if some group has a name; a number of two digits is preferred.
-/
def pieces (groups : Nat) (hasNames : Bool) : List Char → List Piece
  | [] => []
  | c :: rest =>
    if c ≠ '$' then .char c :: pieces groups hasNames rest
    else match rest with
      | [] => [.char '$']
      | d :: more =>
        if d = '$' then .char '$' :: pieces groups hasNames more
        else if d = '&' then .matched :: pieces groups hasNames more
        else if d = '\x60' then .textBefore :: pieces groups hasNames more
        else if d = '\'' then .textAfter :: pieces groups hasNames more
        else if d = '<' ∧ hasNames = true then
          match h : untilAngle more with
          | some (name, after) =>
            have := length_of_untilAngle h
            .named name :: pieces groups hasNames after
          | none => .char '$' :: pieces groups hasNames (d :: more)
        else match more.head?.bind (twoDigits? groups d) with
          | some n => .group n :: pieces groups hasNames more.tail
          | none => match oneDigit? groups d with
            | some n => .group n :: pieces groups hasNames more
            | none => .char '$' :: pieces groups hasNames (d :: more)
termination_by cs => cs.length
decreasing_by all_goals simp_all <;> omega

/-! ## Expansion -/

/-- The characters from one place of a text up to another. -/
def slice (text : List Char) (start stop : Nat) : List Char := (text.take stop).drop start

/-- The text of a group; a group that took no part has none. -/
def groupText (text : List Char) (m : Match) (index : Nat) : List Char :=
  match m.groups[index]? with
  | some (some (a, b)) => slice text a b
  | _ => []

/-- The characters that a piece stands for. -/
def Piece.expand (names : List (String × Nat)) (text : List Char) (m : Match) : Piece → List Char
  | char c => [c]
  | matched => slice text m.start m.stop
  | textBefore => text.take m.start
  | textAfter => text.drop m.stop
  | group n => groupText text m n
  | named name => match names.lookup (String.ofList name) with
    | some n => groupText text m n
    | none => []

/-- A text with the expansion of each match in its place, from a place on. -/
def stitch (expand : Match → List Char) : Nat → List Char → List Match → List Char
  | _, rest, [] => rest
  | position, rest, m :: later =>
    rest.take (m.start - position) ++ expand m
      ++ stitch expand m.stop (rest.drop (m.stop - position)) later

/-- The expansion of a replacement for one match. -/
def Program.expand (p : Program) (replacement : List Char) (text : List Char) (m : Match) :
    List Char :=
  (pieces p.groups (!p.names.isEmpty) replacement).flatMap (Piece.expand p.names text m)

/-- A text with all matches of a pattern replaced. -/
def Program.replaceAll (p : Program) (text replacement : List Char) : List Char :=
  stitch (p.expand replacement text) 0 text (p.matches text)

end Paperwork.Pattern
