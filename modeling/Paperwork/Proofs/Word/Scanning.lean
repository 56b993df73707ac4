import Paperwork.Proofs.Pattern.Literal
import Paperwork.Proofs.Pattern.Replacement
import Paperwork.Proofs.Word.Matches
import Paperwork.Proofs.Word.Substitution

/-!
# Filling by patterns

A text may also be filled by replacing the matches of a pattern, and the tags inside of a placeholder
be found by another one (`Placeholder.substituteBy`). Whatever the delimiters are, this is the same as
scanning for them literally (`Placeholder.substituteBy_eq`).
-/

namespace Paperwork

open Pattern

/-! ## Matches of the two patterns -/

/-- The match of anything between two texts. -/
def matchBetween (a b : List Char) (position length : Nat) : Match :=
  let inside := position + a.length
  let stop := inside + length + b.length
  ⟨position, stop, [some (position, stop), some (inside, inside + length)]⟩

/-- The match of a tag. -/
def matchTag (position length : Nat) : Match :=
  let stop := position + 1 + length + 1
  ⟨position, stop, [some (position, stop)]⟩

/-- What stands around the inside of a tag. -/
def Delimiters.angles : Delimiters := ⟨"<", ">"⟩

namespace Delimiters

variable {d : Delimiters} {text last : List Char} {pieces : List (List Char × List Char)}

theorem places_between (d : Delimiters) :
    d.Places (matchBetween d.start.toList d.stop.toList) :=
  ⟨fun _ _ => rfl, fun _ _ => rfl⟩

theorem places_tag : angles.Places matchTag := ⟨fun _ _ => rfl, fun _ _ => rfl⟩

theorem finds_between (d : Delimiters) :
    d.Finds (.ofNode (between d.start.toList d.stop.toList))
      (matchBetween d.start.toList d.stop.toList) := by
  refine finds_of_matches (Program.descends_ofNode (does_between _ _))
    (fun position before after => first?_between position before after) fun position length => ?_
  have hgroups : (Program.ofNode (between d.start.toList d.stop.toList)).groups = 2 := rfl
  rw [Program.matchOf, Program.blank, hgroups]
  rfl

theorem finds_tag : angles.Finds (.ofNode tag) matchTag := by
  refine finds_of_matches (Program.descends_ofNode does_tag)
    (fun position before after => first?_tag position before after) fun position length => ?_
  have hgroups : (Program.ofNode tag).groups = 1 := rfl
  rw [Program.matchOf, Program.blank, hgroups]
  rfl

end Delimiters

/-! ## Slices -/

/-- The whole of a placeholder. -/
theorem slice_whole (front start inside stop behind : List Char) :
    slice (front ++ start ++ inside ++ stop ++ behind) front.length
      (front.length + start.length + inside.length + stop.length) = start ++ inside ++ stop := by
  have hslice := slice_append front (start ++ inside ++ stop) behind
  simpa only [List.append_assoc, List.length_append, Nat.add_assoc] using hslice

/-- The inside of a placeholder. -/
theorem slice_inside (front start inside stop behind : List Char) :
    slice (front ++ start ++ inside ++ stop ++ behind) (front.length + start.length)
      (front.length + start.length + inside.length) = inside := by
  have hslice := slice_append (front ++ start) inside (stop ++ behind)
  simpa only [List.append_assoc, List.length_append, Nat.add_assoc] using hslice

/-! ## Tags -/

namespace Markup

variable {text last : List Char} {pieces : List (List Char × List Char)}

theorem firstTag?_eq (text : List Char) :
    firstTag? text =
      (Delimiters.angles.first? text).map fun cut => (cut.1, '<' :: cut.2.1 ++ ['>'], cut.2.2) := by
  show (splitFirst ['<'] text).bind _ = ((splitFirst ['<'] text).bind _).map _
  cases splitFirst ['<'] text with
  | none => rfl
  | some cut =>
    show (splitFirst ['>'] cut.2).bind _ = ((splitFirst ['>'] cut.2).bind _).map _
    cases splitFirst ['>'] cut.2 <;> rfl

theorem cutTags_eq (hcut : Delimiters.angles.IsCut text pieces last) :
    cutTags text = (pieces.map fun piece => (piece.1, '<' :: piece.2 ++ ['>']), last) := by
  induction hcut with
  | done hnone =>
    refine cutTags_of_none ?_
    rw [firstTag?_eq, Delimiters.first?_eq_none_iff.mpr hnone]
    rfl
  | next hfirst _ ih =>
    rw [cutTags_of_some (by rw [firstTag?_eq, Delimiters.first?_eq_some_iff.mpr hfirst]; rfl), ih]
    rfl

theorem exists_isCut (text : List Char) : ∃ pieces last, Delimiters.angles.IsCut text pieces last :=
  ⟨_, _, Delimiters.isCut_cutAll (by decide) text⟩

/-- The matches of the pattern of a tag are the tags. -/
theorem map_matches_tag (text : List Char) :
    ((Program.ofNode tag).matches text).map (fun m => slice text m.start m.stop) = tags text := by
  obtain ⟨pieces, last, hcut⟩ := exists_isCut text
  rw [tags, cutTags_eq hcut, List.map_map]
  refine Delimiters.map_matches (fun inside => '<' :: inside ++ ['>']) (by decide)
    Delimiters.places_tag Delimiters.finds_tag hcut fun front inside behind htext => ?_
  rw [htext]
  exact slice_whole front ['<'] inside ['>'] behind

theorem replaceAll_tag (text : List Char) :
    (Program.ofNode tag).replaceAll text [] = withoutTags text := by
  obtain ⟨pieces, last, hcut⟩ := exists_isCut text
  have hnothing : ∀ m, (Program.ofNode tag).expand [] text m = [] := by
    intro m
    rw [Program.expand, Pattern.pieces, List.flatMap_nil]
  rw [Program.replaceAll, Delimiters.stitch_matches (fun _ => []) (by decide)
    Delimiters.places_tag Delimiters.finds_tag hcut fun _ _ _ _ => hnothing _, withoutTags,
    cutTags_eq hcut]
  simp [List.flatMap_map]

end Markup

/-! ## Placeholders -/

namespace Placeholder

variable {d : Delimiters} {fields : Fields} {text last : List Char}
  {pieces : List (List Char × List Char)}

/-- The name in a match of a placeholder, where the matches of another pattern are left out. -/
def matchedName (markup : Program) (text : List Char) (m : Match) : String :=
  String.ofList (trim (markup.replaceAll (groupText text m 1) []))

/-- What takes the place of a match: the value of its field and what was left out of its name. -/
def matchedValue (markup : Program) (fields : Fields) (text : List Char) (m : Match) : List Char :=
  let inside := groupText text m 1
  match fields.get? (matchedName markup text m) with
  | some v =>
    Markup.escape v.display.toList ++
      ((markup.matches inside).map fun tag => slice inside tag.start tag.stop).flatten
  | none => slice text m.start m.stop

/-- Replaces the matches of a pattern by values; the first field without one is a failure. -/
def substituteBy (placeholder markup : Program) (fields : Fields) (text : List Char) :
    Except String (List Char) :=
  let found := placeholder.matches text
  match (found.map (matchedName markup text)).find? fun name => !fields.contains name with
  | some name => .error name
  | none => .ok (stitch (matchedValue markup fields text) 0 text found)

/-- What takes the place of a placeholder if a field without a value leaves it as it is. -/
def fillingOrSelf (d : Delimiters) (fields : Fields) (inside : List Char) : List Char :=
  if fields.contains (fieldName inside) then filling fields inside
  else d.start.toList ++ inside ++ d.stop.toList

variable {front inside behind : List Char}

theorem groupText_between (htext : text = front ++ d.start.toList ++ inside ++ d.stop.toList ++ behind) :
    groupText text (matchBetween d.start.toList d.stop.toList front.length inside.length) 1 = inside := by
  rw [htext]
  exact slice_inside front d.start.toList inside d.stop.toList behind

theorem matchedName_between
    (htext : text = front ++ d.start.toList ++ inside ++ d.stop.toList ++ behind) :
    matchedName (.ofNode tag) text
      (matchBetween d.start.toList d.stop.toList front.length inside.length) = fieldName inside := by
  rw [matchedName, groupText_between htext, Markup.replaceAll_tag, fieldName]

theorem matchedValue_between
    (htext : text = front ++ d.start.toList ++ inside ++ d.stop.toList ++ behind) :
    matchedValue (.ofNode tag) fields text
        (matchBetween d.start.toList d.stop.toList front.length inside.length) =
      fillingOrSelf d fields inside := by
  rw [matchedValue, matchedName_between htext, fillingOrSelf, filling, Dict.contains]
  cases fields.get? (fieldName inside) with
  | none =>
    rw [htext]
    exact slice_whole front d.start.toList inside d.stop.toList behind
  | some v =>
    rw [groupText_between htext, Markup.map_matches_tag]
    rfl

/-- Filling by patterns is the same as filling what stands between literal delimiters. -/
theorem substituteBy_eq (hd : d.areEmpty = false) (fields : Fields) (text : List Char) :
    substituteBy (.ofNode (between d.start.toList d.stop.toList)) (.ofNode tag) fields text =
      substitute d fields text := by
  have hcut : d.IsCut text (d.cut text).pieces (d.cut text).last :=
    (Delimiters.cut_eq_iff_isCut hd).mp rfl
  have hnames := Delimiters.map_matches fieldName hd d.places_between d.finds_between hcut
    fun _ _ _ htext => matchedName_between htext
  have hvalues := Delimiters.stitch_matches (fillingOrSelf d fields) hd d.places_between
    d.finds_between hcut fun _ _ _ htext => matchedValue_between htext
  rw [substitute_eq, substituteBy]
  simp only [hnames, hvalues, List.find?_map, Function.comp_def]
  cases hmissing : (d.cut text).pieces.find? fun piece => !fields.contains (fieldName piece.2) with
  | some piece => rfl
  | none =>
    have hpieces : ∀ piece ∈ (d.cut text).pieces,
        piece.1 ++ fillingOrSelf d fields piece.2 = piece.1 ++ filling fields piece.2 := by
      intro piece hpiece
      have hfield := List.find?_eq_none.mp hmissing piece hpiece
      rw [fillingOrSelf, if_pos (by simpa using hfield)]
    simp only [Option.map_none, List.flatMap_congr hpieces]

theorem substitute_eq_ok_iff {filled : List Char} :
    substitute d fields text = .ok filled ↔
      (∀ piece ∈ (d.cut text).pieces, fields.contains (fieldName piece.2)) ∧
        filled = ((d.cut text).pieces.flatMap fun piece => piece.1 ++ filling fields piece.2) ++
          (d.cut text).last := by
  rw [substitute_eq]
  cases hmissing : (d.cut text).pieces.find? fun piece => !fields.contains (fieldName piece.2) with
  | some piece =>
    have hpiece := List.find?_some hmissing
    refine iff_of_false (fun h => by cases h) fun ⟨hall, _⟩ => ?_
    rw [hall piece (List.mem_of_find?_eq_some hmissing)] at hpiece
    cases hpiece
  | none =>
    have hall : ∀ piece ∈ (d.cut text).pieces, fields.contains (fieldName piece.2) := by
      simpa using List.find?_eq_none.mp hmissing
    rw [Except.ok.injEq, eq_comm]
    exact (and_iff_right hall).symm

/-- The failure tells the name of the first placeholder whose field has no value. -/
theorem substitute_eq_error_iff {name : String} :
    substitute d fields text = .error name ↔
      ∃ resolved piece others, (d.cut text).pieces = resolved ++ piece :: others ∧
        (∀ earlier ∈ resolved, fields.contains (fieldName earlier.2)) ∧
        ¬ fields.contains (fieldName piece.2) ∧ fieldName piece.2 = name := by
  rw [substitute_eq]
  constructor
  · intro h
    cases hmissing : (d.cut text).pieces.find? fun piece => !fields.contains (fieldName piece.2) with
    | none => rw [hmissing] at h; cases h
    | some piece =>
      rw [hmissing] at h
      obtain ⟨hpiece, resolved, others, hpieces, hresolved⟩ := List.find?_eq_some_iff_append.mp hmissing
      exact ⟨resolved, piece, others, hpieces, by simpa using hresolved, by simpa using hpiece,
        Except.error.inj h⟩
  · rintro ⟨resolved, piece, others, hpieces, hresolved, hpiece, rfl⟩
    have hmissing : (d.cut text).pieces.find? (fun piece => !fields.contains (fieldName piece.2)) =
        some piece :=
      List.find?_eq_some_iff_append.mpr
        ⟨by simpa using hpiece, resolved, others, hpieces, by simpa using hresolved⟩
    rw [hmissing]

/--
Placeholders are found by scanning literally, whatever characters the delimiters consist of: filling
by the pattern of a placeholder and that of a tag is the same as filling the only cut of the text at
its placeholders, where everything between them is kept and values are not scanned again.
-/
theorem substitute_scans_literally (hstart : d.start ≠ "") (hstop : d.stop ≠ "")
    (hsize : d.pattern.isTooLarge = false) :
    ∃ placeholder markup,
      Program.compile (betweenText d.start.toList d.stop.toList) = .ok placeholder ∧
      Program.compile "<[^>]*>" = .ok markup ∧
      ∀ text, ∃ cut : Cut, (∀ c : Cut, d.IsCut text c.pieces c.last ↔ c = cut) ∧
        ∀ fields, substituteBy placeholder markup fields text = substitute d fields text ∧
          (∀ filled, substitute d fields text = .ok filled ↔
            (∀ piece ∈ cut.pieces, fields.contains (fieldName piece.2)) ∧
              filled = (cut.pieces.flatMap fun piece => piece.1 ++ filling fields piece.2) ++ cut.last) ∧
          ∀ name, substitute d fields text = .error name ↔
            ∃ resolved piece others, cut.pieces = resolved ++ piece :: others ∧
              (∀ earlier ∈ resolved, fields.contains (fieldName earlier.2)) ∧
              ¬ fields.contains (fieldName piece.2) ∧ fieldName piece.2 = name := by
  have hd := Delimiters.areEmpty_of_start_ne hstart
  have hstartList : d.start.toList ≠ [] := mt String.toList_eq_nil_iff.mp hstart
  have hstopList : d.stop.toList ≠ [] := mt String.toList_eq_nil_iff.mp hstop
  rw [Delimiters.pattern_eq hstart hstop] at hsize
  refine ⟨_, _, compile_between hstartList hstopList hsize, compile_tag, fun text => ?_⟩
  refine ⟨d.cut text, fun c => ?_, fun fields => ?_⟩
  · rw [← Delimiters.cut_eq_iff_isCut hd, eq_comm]
  · exact ⟨substituteBy_eq hd fields text, fun _ => substitute_eq_ok_iff,
      fun _ => substitute_eq_error_iff⟩

/-- Delimiters that mean something in a pattern, and a value that looks like a placeholder. -/
theorem substitute_scans_stars :
    let d : Delimiters := ⟨"(*", "*)"⟩
    (d.start ≠ "" ∧ d.stop ≠ "" ∧ d.pattern.isTooLarge = false) ∧
      ∃ placeholder markup,
        Program.compile (betweenText d.start.toList d.stop.toList) = .ok placeholder ∧
        Program.compile "<[^>]*>" = .ok markup ∧
        substituteBy placeholder markup (.ofList [("x", .text "(*<*)")]) "1 (* <b>x</b>*) (*".toList =
          .ok "1 (*&lt;*)<b></b> (*".toList := by
  intro d
  have hsize : d.pattern.isTooLarge = false :=
    Delimiters.isTooLarge_pattern (by decide) (by decide) (by decide)
  have hfilled : substitute d (.ofList [("x", .text "(*<*)")]) "1 (* <b>x</b>*) (*".toList =
      .ok "1 (*&lt;*)<b></b> (*".toList := by
    decide +kernel
  obtain ⟨placeholder, markup, hplaceholder, hmarkup, hall⟩ :=
    substitute_scans_literally (d := d) (by decide) (by decide) hsize
  obtain ⟨_, _, hfields⟩ := hall "1 (* <b>x</b>*) (*".toList
  refine ⟨⟨by decide, by decide, hsize⟩, placeholder, markup, hplaceholder, hmarkup, ?_⟩
  rw [(hfields _).1, hfilled]

end Placeholder

end Paperwork
