import Paperwork.Pattern.Program
import Paperwork.Proofs.Pattern.Enclosed

/-!
# Patterns with literal texts

A text is written in a pattern with a backslash before each character that has a meaning of its own;
it is read back as its letters, whatever they are (`parseBranches_escaped`). So anything between two
such texts compiles to just that (`compile_between`).
-/

namespace Paperwork.Pattern

open Unicode Unicode.CodeSet

/-- A text as a pattern that matches only itself. -/
def escaped (cs : List Char) : List Char := cs.flatMap fun c => if isMeta c then ['\\', c] else [c]

/-- A pattern of anything between two texts, line breaks included. -/
def betweenText (a b : List Char) : String :=
  String.ofList ("(?s)".toList ++ (escaped a ++ ("(.*?)".toList ++ escaped b)))

/-! ## Reading letters -/

variable {c : Char} {cs more : List Char} {groups n : Nat} {names : List String}
  {branches parts : List Syntax}

theorem isMeta_iff : isMeta c ↔ c ∈ ['\\', '.', '+', '*', '?', '(', ')', '|', '[', ']', '\x7b', '\x7d',
    '^', '$', '#', '&', '-', '~'] := by
  have hlist : "\\.+*?()|[]\x7b\x7d^$#&-~".toList = ['\\', '.', '+', '*', '?', '(', ')', '|', '[', ']',
      '\x7b', '\x7d', '^', '$', '#', '&', '-', '~'] := by
    decide
  rw [isMeta, hlist, List.contains_iff_mem]

theorem bind_of_ok {α β : Type} {x : Parse α} {f : α → Parse β} {s t : Cursor} {a : α}
    (h : x s = .ok (a, t)) : (x >>= f) s = f a t := by
  show (x s >>= fun r => f r.1 r.2) = _
  rw [h]
  rfl

/-- A character without a meaning is a letter. -/
theorem parseBranches_letter (h : ¬ isMeta c) :
    parseBranches (n + 1) branches parts ⟨c :: more, false, groups, names⟩ =
      parseBranches n branches (.letter ⟨c, false⟩ :: parts) ⟨more, false, groups, names⟩ := by
  have hskip : skipBlanks ⟨c :: more, false, groups, names⟩ =
      .ok ((), ⟨c :: more, false, groups, names⟩) := rfl
  have hpeek : peek ⟨c :: more, false, groups, names⟩ =
      .ok (some c, ⟨c :: more, false, groups, names⟩) := rfl
  rw [isMeta_iff] at h
  rw [parseBranches, bind_of_ok hskip, bind_of_ok hpeek]
  dsimp only
  split
  case h_13 => rfl
  all_goals exact absurd (by decide) h

theorem parseEscape_meta (h : isMeta c) :
    parseEscape ⟨'\\' :: c :: more, false, groups, names⟩ =
      .ok (.letter ⟨c, false⟩, ⟨more, false, groups, names⟩) := by
  have hmem := isMeta_iff.mp h
  simp only [List.mem_cons, List.not_mem_nil, or_false] at hmem
  rcases hmem with rfl | rfl | rfl | rfl | rfl | rfl | rfl | rfl | rfl | rfl | rfl | rfl | rfl | rfl |
    rfl | rfl | rfl | rfl
  all_goals rfl

/-- A backslash takes the meaning away. -/
theorem parseBranches_escape (h : isMeta c) :
    parseBranches (n + 1) branches parts ⟨'\\' :: c :: more, false, groups, names⟩ =
      parseBranches n branches (.letter ⟨c, false⟩ :: parts) ⟨more, false, groups, names⟩ := by
  have hskip : skipBlanks ⟨'\\' :: c :: more, false, groups, names⟩ =
      .ok ((), ⟨'\\' :: c :: more, false, groups, names⟩) := rfl
  have hpeek : peek ⟨'\\' :: c :: more, false, groups, names⟩ =
      .ok (some '\\', ⟨'\\' :: c :: more, false, groups, names⟩) := rfl
  rw [parseBranches, bind_of_ok hskip, bind_of_ok hpeek]
  exact bind_of_ok (parseEscape_meta h)

/-- The letters of a text. -/
def letters (cs : List Char) : List Syntax := cs.map fun c => .letter ⟨c, false⟩

theorem parseBranches_escaped :
    parseBranches (n + cs.length) branches parts ⟨escaped cs ++ more, false, groups, names⟩ =
      parseBranches n branches ((letters cs).reverse ++ parts) ⟨more, false, groups, names⟩ := by
  induction cs generalizing parts with
  | nil => rfl
  | cons c rest ih =>
    have hstep : parseBranches (n + rest.length + 1) branches parts
        ⟨escaped (c :: rest) ++ more, false, groups, names⟩ =
        parseBranches (n + rest.length) branches (.letter ⟨c, false⟩ :: parts)
          ⟨escaped rest ++ more, false, groups, names⟩ := by
      rw [escaped, List.flatMap_cons, List.append_assoc]
      split
      · rename_i hmeta
        exact parseBranches_escape hmeta
      · rename_i hplain
        exact parseBranches_letter hplain
    have hletters : letters (c :: rest) = .letter ⟨c, false⟩ :: letters rest := rfl
    rw [List.length_cons, ← Nat.add_assoc, hstep, ih, hletters, List.reverse_cons, List.append_assoc]
    rfl

/-- What is read of anything between two texts. -/
def betweenParts (a b : List Char) : List Syntax :=
  .flags [(.dotAll, true)] ::
    (letters a ++ .group (.capture 1 none) (.repeated .dot 0 none false) :: letters b)

theorem parseBranches_between (a b : List Char) :
    parseBranches (n + b.length + 4 + a.length + 1) [] []
        ⟨"(?s)".toList ++ (escaped a ++ ("(.*?)".toList ++ escaped b)), false, 0, []⟩ =
      .ok (.ofParts (betweenParts a b), ⟨[], false, 1, []⟩) := by
  have hflags : ∀ (fuel : Nat) (more : List Char),
      parseBranches (fuel + 1) [] [] ⟨"(?s)".toList ++ more, false, 0, []⟩ =
        parseBranches fuel [] [.flags [(.dotAll, true)]] ⟨more, false, 0, []⟩ :=
    fun _ _ => rfl
  have hgroup : ∀ (fuel : Nat) (parts : List Syntax) (more : List Char),
      parseBranches (fuel + 4) [] parts ⟨"(.*?)".toList ++ more, false, 0, []⟩ =
        parseBranches (fuel + 3) []
          (.group (.capture 1 none) (.repeated .dot 0 none false) :: parts) ⟨more, false, 1, []⟩ :=
    fun _ _ _ => rfl
  have hend : ∀ (fuel : Nat) (parts : List Syntax), parseBranches (fuel + 1) [] parts
      ⟨[], false, 1, []⟩ = .ok (.ofParts parts.reverse, ⟨[], false, 1, []⟩) :=
    fun _ _ => rfl
  rw [hflags, parseBranches_escaped, hgroup, Nat.add_right_comm, ← List.append_nil (escaped b),
    parseBranches_escaped, hend]
  simp [betweenParts]

/-! ### The whole pattern -/

theorem length_le_escaped (cs : List Char) : cs.length ≤ (escaped cs).length := by
  induction cs with
  | nil => exact Nat.le_refl _
  | cons c rest ih =>
    rw [escaped, List.flatMap_cons, List.length_append, List.length_cons, ← escaped]
    split <;> simp only [List.length_cons, List.length_nil] <;> omega

theorem depthOfAll_letters (cs : List Char) (parts : List Syntax) :
    Syntax.depthOfAll (letters cs ++ parts) = Syntax.depthOfAll parts := by
  induction cs with
  | nil => rfl
  | cons c rest ih =>
    show max 0 (Syntax.depthOfAll (letters rest ++ parts)) = _
    rw [ih, Nat.zero_max]

theorem depth_between (a b : List Char) : (Syntax.concat (betweenParts a b)).depth = 3 := by
  have hlast : Syntax.depthOfAll (letters b) = 0 := by
    rw [← List.append_nil (letters b), depthOfAll_letters]
    rfl
  rw [Syntax.depth, betweenParts, Syntax.depthOfAll, depthOfAll_letters, Syntax.depthOfAll, hlast]
  rfl

theorem ofParts_between (a b : List Char) :
    Syntax.ofParts (betweenParts a b) = .concat (betweenParts a b) := by
  cases a <;> rfl

/-- The pattern is read whole, and is not nested too deeply. -/
theorem parse_betweenText (a b : List Char) :
    parse (betweenText a b) = .ok (.concat (betweenParts a b)) := by
  obtain ⟨n, hfuel⟩ : ∃ n, 2 * ("(?s)".toList ++ (escaped a ++ ("(.*?)".toList ++ escaped b))).length + 2 =
      n + b.length + 4 + a.length + 1 := by
    have hflags : "(?s)".toList.length = 4 := by decide
    have hgroup : "(.*?)".toList.length = 5 := by decide
    have ha := length_le_escaped a
    have hb := length_le_escaped b
    simp only [List.length_append, hflags, hgroup]
    exact ⟨2 * (4 + ((escaped a).length + (5 + (escaped b).length))) + 2 -
      (b.length + 4 + a.length + 1), by omega⟩
  have hread := parseBranches_between (n := n) a b
  have hdepth := depth_between a b
  rw [ofParts_between] at hread
  simp only [parse, betweenText, String.toList_ofList, hfuel, StateT.run, hread]
  show (if maxNesting < _ then _ else _) = _
  rw [hdepth]
  rfl

/-! ## Lowering -/

variable {s : Switches}

theorem ofSet_single (c : Char) : Node.ofSet (.single c.toNat) = .text [c] := by
  rw [Node.ofSet, characters_single]
  show (if (c.toNat == c.toNat) = true then Node.text [Char.ofNat c.toNat] else _) = _
  rw [if_pos (beq_self_eq_true _), Char.ofNat_toNat]

theorem letterNode_eq (hcase : s.ignoreCase = false) (c : Char) :
    letterNode s ⟨c, false⟩ = .ok (.text [c]) := by
  simp [letterNode, hcase, ofSet_single]

theorem lowerAll_cons {t u : Switches} {part : Syntax} {rest : List Syntax} {n : Node} {nodes : List Node}
    (h : lower s part = .ok (n, t)) (hrest : lowerAll t rest = .ok (nodes, u)) :
    lowerAll s (part :: rest) = .ok (n :: nodes, u) := by
  rw [lowerAll, h]
  show (lowerAll t rest).bind _ = _
  rw [hrest]
  rfl

theorem lower_concat {t : Switches} {parts : List Syntax} {nodes : List Node}
    (h : lowerAll s parts = .ok (nodes, t)) : lower s (.concat parts) = .ok (.join nodes, t) := by
  rw [lower, h]
  rfl

theorem lower_letter (hcase : s.ignoreCase = false) (c : Char) :
    lower s (.letter ⟨c, false⟩) = .ok (.text [c], s) := by
  rw [lower, letterNode_eq hcase]
  rfl

theorem lowerAll_letters {t : Switches} {parts : List Syntax} {nodes : List Node}
    (hcase : s.ignoreCase = false) (cs : List Char) (h : lowerAll s parts = .ok (nodes, t)) :
    lowerAll s (letters cs ++ parts) = .ok (cs.map (fun c => Node.text [c]) ++ nodes, t) := by
  induction cs with
  | nil => exact h
  | cons c rest ih => exact lowerAll_cons (lower_letter hcase c) ih

theorem mergeTexts_text {parts more : List Node} {b : List Char}
    (h : Node.mergeTexts parts = .text b :: more) (a : List Char) :
    Node.mergeTexts (.text a :: parts) = .text (a ++ b) :: more := by
  rw [Node.mergeTexts.eq_def]
  simp only [h]

theorem mergeTexts_cons {parts : List Node} {part : Node}
    (h : (∀ a, part ≠ .text a) ∨ ∀ b more, Node.mergeTexts parts ≠ .text b :: more) :
    Node.mergeTexts (part :: parts) = part :: Node.mergeTexts parts := by
  rw [Node.mergeTexts.eq_def]
  dsimp only
  split
  · rename_i a b more htext
    rcases h with h | h
    · exact absurd rfl (h a)
    · exact absurd htext (h b more)
  · rfl

/-- Letters are put together to one text. -/
theorem mergeTexts_letters (parts : List Node) (hcs : cs ≠ [])
    (hparts : ∀ b more, Node.mergeTexts parts ≠ .text b :: more) :
    Node.mergeTexts (cs.map (fun c => Node.text [c]) ++ parts) = .text cs :: Node.mergeTexts parts := by
  induction cs with
  | nil => exact absurd rfl hcs
  | cons c rest ih =>
    cases rest with
    | nil => exact mergeTexts_cons (.inr hparts)
    | cons d rest => exact mergeTexts_text (ih (List.cons_ne_nil _ _)) [c]

/-- Letters are kept apart from anything else, and nothing is left of the switches. -/
theorem join_between {a b : List Char} (ha : a ≠ []) (hb : b ≠ []) (n : Node) (index : Nat)
    (name : Option String) :
    Node.join (.empty :: (a.map (fun c => Node.text [c]) ++
      .capture index name n :: b.map (fun c => Node.text [c]))) =
      .concat [.text a, .capture index name n, .text b] := by
  have hlast : Node.mergeTexts (b.map fun c => Node.text [c]) = [.text b] := by
    have hmerge := mergeTexts_letters [] hb (by simp [Node.mergeTexts])
    rwa [List.append_nil] at hmerge
  have hgroup : Node.mergeTexts (.capture index name n :: b.map fun c => Node.text [c]) =
      [.capture index name n, .text b] := by
    rw [mergeTexts_cons (.inl fun _ h => by cases h), hlast]
  have hmerge := mergeTexts_letters (.capture index name n :: b.map fun c => Node.text [c]) ha
    (by simp [hgroup])
  rw [hgroup] at hmerge
  rw [Node.join]
  simp only [List.flatMap_cons, List.flatMap_append, List.flatMap_map, List.nil_append,
    ← List.map_eq_flatMap, List.singleton_append, hmerge]

/-- The switches once line breaks are among any characters. -/
def dotAll : Switches := { Switches.initial with dotAll := true }

theorem lower_group :
    lower dotAll (.group (.capture 1 none) (.repeated .dot 0 none false)) =
      .ok (.capture 1 none (.repeated (.chars anyCharacter) 0 none false), dotAll) := by
  have hdot : dotNode dotAll = .ok (.chars anyCharacter) := by
    rw [← ofSet_all]
    rfl
  have hlower : lower dotAll .dot = .ok (.chars anyCharacter, dotAll) := by
    rw [lower, hdot]
    rfl
  have hrepeated : lower dotAll (.repeated .dot 0 none false) =
      .ok (.repeated (.chars anyCharacter) 0 none false, dotAll) := by
    rw [lower, hlower]
    rfl
  rw [lower]
  show (lower dotAll (.repeated .dot 0 none false)).bind _ = _
  rw [hrepeated]
  rfl

theorem lower_between {a b : List Char} (ha : a ≠ []) (hb : b ≠ []) :
    lower .initial (.concat (betweenParts a b)) = .ok (between a b, dotAll) := by
  have hlast : lowerAll dotAll (letters b) = .ok (b.map fun c => Node.text [c], dotAll) := by
    have hletters := lowerAll_letters (s := dotAll) rfl b (lowerAll.eq_1 dotAll)
    rwa [List.append_nil, List.append_nil] at hletters
  have hflags : lower .initial (.flags [(.dotAll, true)]) = .ok (.empty, dotAll) := by
    rw [lower]
    rfl
  rw [betweenParts, lower_concat (lowerAll_cons hflags
    (lowerAll_letters rfl a (lowerAll_cons lower_group hlast))), join_between ha hb]
  rfl

theorem compile_of_lower {pattern : String} {tree : Syntax} {n : Node} {s : Switches}
    (htree : parse pattern = .ok tree) (hlower : lower .initial tree = .ok (n, s))
    (hsize : n.isTooLarge = false) : Program.compile pattern = .ok (.ofNode n) := by
  rw [Program.compile, htree]
  show (lower .initial tree).bind _ = _
  rw [hlower]
  show (if n.isTooLarge = true then _ else _) = _
  rw [hsize]
  rfl

/-- Anything between two texts compiles to that, unless it is too large. -/
theorem compile_between {a b : List Char} (ha : a ≠ []) (hb : b ≠ [])
    (hsize : (between a b).isTooLarge = false) :
    Program.compile (betweenText a b) = .ok (.ofNode (between a b)) :=
  compile_of_lower (parse_betweenText a b) (lower_between ha hb) hsize

/-! ## Tags -/

/-- What is read of the pattern of a tag. -/
def tagTree : Syntax :=
  .concat [.letter ⟨'<', false⟩,
    .repeated (.bracket true (.items [.letter ⟨'>', false⟩])) 0 none true, .letter ⟨'>', false⟩]

theorem parse_tag : parse "<[^>]*>" = .ok tagTree := rfl

theorem lower_inTag :
    lower .initial (.bracket true (.items [.letter ⟨'>', false⟩])) = .ok (.chars inTag, .initial) := by
  have hranges : (complement (.unions [.single '>'.toNat])).characters.ranges =
      [(0, 61), (63, 0xD7FF), (0xE000, 0x10FFFF)] := ranges_inTag
  have hnode : Node.ofSet (complement (.unions [.single '>'.toNat])) = .chars inTag := by
    unfold Node.ofSet
    simp only [hranges]
    rfl
  rw [← hnode]
  rfl

theorem lower_tag : lower .initial tagTree = .ok (tag, .initial) := by
  have hrepeated : lower .initial (.repeated (.bracket true (.items [.letter ⟨'>', false⟩])) 0 none true) =
      .ok (.repeated (.chars inTag) 0 none true, .initial) := by
    rw [lower, lower_inTag]
    rfl
  have hclose := lowerAll_letters (s := .initial) rfl ['>'] (lowerAll.eq_1 .initial)
  have hall := lowerAll_letters (s := .initial) rfl ['<'] (lowerAll_cons hrepeated hclose)
  exact lower_concat hall

theorem compile_tag : Program.compile "<[^>]*>" = .ok (.ofNode tag) :=
  compile_of_lower parse_tag lower_tag isTooLarge_tag

end Paperwork.Pattern
