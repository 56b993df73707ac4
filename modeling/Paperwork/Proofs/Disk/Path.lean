import Mathlib.Data.List.Basic
import Paperwork.Disk.Path

/-!
# Components of paths

The components of a path are what stands between its slashes (`components_eq`). The name at the end
of a path is found by dropping slashes and single dots behind it (`IsLast`); there is at most one
such name, and `Path.fileName?` gives it unless it leads up (`fileName?_eq_some_iff`). A path that
`Path.join` makes of a directory and a name has the components of both (`components_join`).
-/

namespace Paperwork

/-! ## Cutting at a character -/

theorem not_mem_of_splitFirst_eq_none {c : Char} {text : List Char}
    (h : splitFirst [c] text = none) : c ∉ text := by
  induction text with
  | nil => exact List.not_mem_nil
  | cons x rest ih =>
    unfold splitFirst at h
    split at h
    · cases h
    · rename_i hx
      rw [Option.map_eq_none_iff] at h
      have hne : c ≠ x := by simpa [List.isPrefixOf] using hx
      simp [hne, ih h]

theorem not_mem_of_splitFirst_eq_some {c : Char} {text a b : List Char}
    (h : splitFirst [c] text = some (a, b)) : c ∉ a := by
  induction text generalizing a with
  | nil => simp [splitFirst] at h
  | cons x rest ih =>
    unfold splitFirst at h
    split at h
    · cases h
      exact List.not_mem_nil
    · rename_i hx
      obtain ⟨⟨a', b'⟩, hrest, heq⟩ := Option.map_eq_some_iff.mp h
      obtain ⟨rfl, rfl⟩ := Prod.mk.inj heq
      have hne : c ≠ x := by simpa [List.isPrefixOf] using hx
      simp [hne, ih hrest]

/-- With a single character as separator the pieces are those of the library. -/
theorem splitAll_singleton (c : Char) (text : List Char) : splitAll [c] text = text.splitOn c := by
  rw [splitAll, dif_neg (List.cons_ne_nil c [])]
  split
  · rename_i hnone
    rw [List.splitOn_eq_singleton (not_mem_of_splitFirst_eq_none hnone)]
  · rename_i a b hsome
    have htext := append_of_splitFirst hsome
    rw [List.append_assoc, List.singleton_append] at htext
    have hlt : b.length < text.length := by
      rw [htext, List.length_append, List.length_cons]
      omega
    calc a :: splitAll [c] b = a :: b.splitOn c := by rw [splitAll_singleton c b]
      _ = (a ++ c :: b).splitOn c :=
        (List.splitOn_append_cons_self_of_not_mem (not_mem_of_splitFirst_eq_some hsome) b).symm
      _ = text.splitOn c := by rw [htext]
termination_by text.length

theorem not_mem_of_mem_splitOn {c : Char} {text piece : List Char} (h : piece ∈ text.splitOn c) :
    c ∉ piece := by
  induction text generalizing piece with
  | nil =>
    rw [List.splitOn_nil, List.mem_singleton] at h
    simp [h]
  | cons x rest ih =>
    rw [List.splitOn_cons_eq_if_modifyHead] at h
    split at h
    · rcases List.mem_cons.mp h with rfl | h
      · exact List.not_mem_nil
      · exact ih h
    · rename_i hx
      have hne : c ≠ x := fun heq => hx (by simp [heq])
      cases hrest : rest.splitOn c with
      | nil => exact absurd hrest (List.splitOn_ne_nil c rest)
      | cons first others =>
        rw [hrest, List.modifyHead_cons] at h
        rcases List.mem_cons.mp h with rfl | h
        · have hfirst : c ∉ first := ih (by rw [hrest]; exact List.mem_cons_self)
          simp [hne, hfirst]
        · exact ih (by rw [hrest]; exact List.mem_cons_of_mem _ h)

/-- Pieces with a separator between any two of them, seen from one of the pieces. -/
theorem intercalate_append_cons (c : Char) (before after : List (List Char)) (piece : List Char) :
    [c].intercalate (before ++ piece :: after) =
      before.flatMap (· ++ [c]) ++ piece ++ after.flatMap (c :: ·) := by
  have hafter : ∀ (x : List Char) (xs : List (List Char)),
      [c].intercalate (x :: xs) = x ++ xs.flatMap (c :: ·) := by
    intro x xs
    induction xs generalizing x with
    | nil => simp
    | cons y ys ih => rw [List.intercalate_cons_cons, ih y]; simp
  induction before with
  | nil => simp [hafter]
  | cons x xs ih =>
    cases xs with
    | nil => rw [List.singleton_append, List.intercalate_cons_cons, hafter]; simp
    | cons y ys =>
      rw [List.cons_append, List.cons_append, List.intercalate_cons_cons, ← List.cons_append, ih]
      simp

theorem eq_append_of_splitOn {c : Char} {text piece : List Char} {rest : List (List Char)}
    (h : text.splitOn c = piece :: rest) : text = piece ++ rest.flatMap (c :: ·) := by
  have hjoined := intercalate_append_cons c [] rest piece
  rwa [List.nil_append, ← h, List.intercalate_splitOn] at hjoined

namespace Path

variable {path name : String}

theorem components_eq (path : String) :
    components path = (path.toList.splitOn '/').map String.ofList := by
  rw [components, splitAll_singleton]

theorem not_slash_of_mem_components (h : name ∈ components path) : '/' ∉ name.toList := by
  rw [components_eq] at h
  obtain ⟨piece, hpiece, rfl⟩ := List.mem_map.mp h
  rw [String.toList_ofList]
  exact not_mem_of_mem_splitOn hpiece

/-- Every character of a path but the slashes stands in a component. -/
theorem exists_mem_components {x : Char} (h : x ∈ path.toList) (hx : x ≠ '/') :
    ∃ c ∈ components path, x ∈ c.toList := by
  have hpiece : ∃ piece ∈ path.toList.splitOn '/', x ∈ piece := by
    cases hsplit : path.toList.splitOn '/' with
    | nil => exact absurd hsplit (List.splitOn_ne_nil _ _)
    | cons p rest =>
      rw [eq_append_of_splitOn hsplit, List.mem_append, List.mem_flatMap] at h
      rcases h with hp | ⟨p', hp', hmem⟩
      · exact ⟨p, List.mem_cons_self, hp⟩
      · exact ⟨p', List.mem_cons_of_mem _ hp', (List.mem_cons.mp hmem).resolve_left hx⟩
  obtain ⟨piece, hmem, hxp⟩ := hpiece
  rw [components_eq]
  exact ⟨String.ofList piece, List.mem_map_of_mem hmem, by rwa [String.toList_ofList]⟩

theorem components_append_slash (front back : String) :
    components (front ++ "/" ++ back) = components front ++ components back := by
  have htext : (front ++ "/" ++ back).toList = front.toList ++ '/' :: back.toList := by
    simp [String.toList_append]
  rw [components_eq, htext, List.splitOn_append_cons_self, List.map_append, ← components_eq,
    ← components_eq]

/-- A name without a slash is a path of one component. -/
theorem components_of_not_slash (h : '/' ∉ name.toList) : components name = [name] := by
  rw [components_eq, List.splitOn_eq_singleton h, List.map_singleton, String.ofList_toList]

/-! ## The name at the end of a path -/

/-- Slashes and single dots behind a component. -/
inductive IsTrailing : List Char → Prop
  | nil : IsTrailing []
  | slash {rest : List Char} : IsTrailing rest → IsTrailing ('/' :: rest)
  | dot {rest : List Char} : IsTrailing rest → IsTrailing ('/' :: '.' :: rest)

/-- The last component that is left of a path when slashes and single dots behind it are dropped. -/
structure IsLast (path name : String) : Prop where
  exists_eq : ∃ front tail, path.toList = front ++ name.toList ++ tail ∧
    (front = [] ∨ ∃ directory, front = directory ++ ['/']) ∧ IsTrailing tail
  not_slash : '/' ∉ name.toList
  proper : name ≠ "" ∧ name ≠ "."

theorem isProper_iff : isProper name = true ↔ name ≠ "" ∧ name ≠ "." := by
  simp [isProper]

/-- What stands behind a component adds components that lead nowhere. -/
theorem exists_splitOn_of_isTrailing {piece tail : List Char} (htail : IsTrailing tail)
    (hpiece : '/' ∉ piece) :
    ∃ pieces, (piece ++ tail).splitOn '/' = piece :: pieces ∧ ∀ p ∈ pieces, p = [] ∨ p = ['.'] := by
  induction htail generalizing piece with
  | nil =>
    refine ⟨[], ?_, by simp⟩
    rw [List.append_nil, List.splitOn_eq_singleton hpiece]
  | @slash rest _ ih =>
    obtain ⟨pieces, hsplit, hpieces⟩ := @ih [] List.not_mem_nil
    refine ⟨[] :: pieces, ?_, by simpa using hpieces⟩
    rw [List.splitOn_append_cons_self_of_not_mem hpiece, ← hsplit, List.nil_append]
  | @dot rest _ ih =>
    obtain ⟨pieces, hsplit, hpieces⟩ := @ih ['.'] (by decide)
    refine ⟨['.'] :: pieces, ?_, by simpa using hpieces⟩
    rw [List.splitOn_append_cons_self_of_not_mem hpiece, ← hsplit, List.singleton_append]

theorem isTrailing_flatMap {pieces : List (List Char)} (h : ∀ p ∈ pieces, p = [] ∨ p = ['.']) :
    IsTrailing (pieces.flatMap ('/' :: ·)) := by
  induction pieces with
  | nil => exact .nil
  | cons p rest ih =>
    rw [List.forall_mem_cons] at h
    rw [List.flatMap_cons]
    rcases h.1 with rfl | rfl
    · exact .slash (ih h.2)
    · exact .dot (ih h.2)

theorem isProper_ofList {piece : List Char} :
    isProper (String.ofList piece) = false ↔ piece = [] ∨ piece = ['.'] := by
  have hdot : String.ofList piece = "." ↔ piece = ['.'] := by
    rw [← String.toList_inj, String.toList_ofList]
    rfl
  simp only [isProper, Bool.and_eq_false_iff, bne_eq_false_iff_eq, String.ofList_eq_empty_iff, hdot]

/-- The components that lead somewhere. -/
def properComponents (path : String) : List String := (components path).filter isProper

/-- The components of a path around one that is followed by nothing that leads somewhere. -/
theorem isLast_of_components {before after : List String}
    (h : components path = before ++ name :: after) (hproper : isProper name = true)
    (hafter : after.filter isProper = []) : IsLast path name := by
  have hslash : '/' ∉ name.toList := not_slash_of_mem_components (by rw [h]; simp)
  rw [components_eq] at h
  obtain ⟨fronts, rest, hpieces, -, hrest⟩ := List.map_eq_append_iff.mp h
  obtain ⟨piece, tails, rfl, hpiece, rfl⟩ := List.map_eq_cons_iff.mp hrest
  rw [← hpiece, String.toList_ofList] at hslash
  have htext : path.toList = fronts.flatMap (· ++ ['/']) ++ piece ++ tails.flatMap ('/' :: ·) := by
    rw [← intercalate_append_cons, ← hpieces, List.intercalate_splitOn]
  refine ⟨⟨fronts.flatMap (· ++ ['/']), tails.flatMap ('/' :: ·), ?_, ?_, ?_⟩, ?_,
    isProper_iff.mp hproper⟩
  · rw [htext, ← hpiece, String.toList_ofList]
  · rcases List.eq_nil_or_concat fronts with rfl | ⟨before, p, rfl⟩
    · exact .inl rfl
    · exact .inr ⟨before.flatMap (· ++ ['/']) ++ p, by simp⟩
  · refine isTrailing_flatMap fun p hp => isProper_ofList.mp ?_
    simpa using List.filter_eq_nil_iff.mp hafter _ (List.mem_map_of_mem hp)
  · rwa [← hpiece, String.toList_ofList]

theorem IsLast.exists_components (h : IsLast path name) :
    ∃ before after, components path = before ++ name :: after ∧ after.filter isProper = [] := by
  obtain ⟨front, tail, htext, hfront, htail⟩ := h.exists_eq
  obtain ⟨pieces, hsplit, hpieces⟩ := exists_splitOn_of_isTrailing htail h.not_slash
  have hafter : (pieces.map String.ofList).filter isProper = [] := by
    rw [List.filter_eq_nil_iff]
    intro c hc
    obtain ⟨p, hp, rfl⟩ := List.mem_map.mp hc
    simp [isProper_ofList.mpr (hpieces p hp)]
  rw [components_eq, htext, List.append_assoc]
  rcases hfront with rfl | ⟨directory, rfl⟩
  · exact ⟨[], pieces.map String.ofList, by simp [hsplit], hafter⟩
  · refine ⟨(directory.splitOn '/').map String.ofList, pieces.map String.ofList, ?_, hafter⟩
    rw [List.append_assoc, List.singleton_append, List.splitOn_append_cons_self, hsplit]
    simp

/-- The name at the end of a path is the last component that leads somewhere. -/
theorem getLast?_properComponents_eq_some_iff :
    (properComponents path).getLast? = some name ↔ IsLast path name := by
  constructor
  · intro h
    obtain ⟨before, hbefore⟩ := List.getLast?_eq_some_iff.mp h
    obtain ⟨start, rest, hcomponents, -, hrest⟩ := List.filter_eq_append_iff.mp hbefore
    obtain ⟨skipped, after, rfl, -, hproper, hafter⟩ := List.filter_eq_cons_iff.mp hrest
    rw [← List.append_assoc] at hcomponents
    exact isLast_of_components hcomponents hproper hafter
  · intro h
    obtain ⟨before, after, hcomponents, hafter⟩ := h.exists_components
    have hproper : isProper name = true := isProper_iff.mpr h.proper
    rw [properComponents, hcomponents, List.filter_append, List.filter_cons_of_pos hproper, hafter,
      List.getLast?_append]
    simp

/-- A path has no name at its end if it is nothing but slashes and single dots. -/
theorem properComponents_eq_nil_iff :
    properComponents path = [] ↔ IsTrailing ('/' :: path.toList) := by
  have hpieces : properComponents path = [] ↔
      ∀ p ∈ path.toList.splitOn '/', p = [] ∨ p = ['.'] := by
    rw [properComponents, components_eq, List.filter_eq_nil_iff, List.forall_mem_map]
    simp only [Bool.not_eq_true, isProper_ofList]
  rw [hpieces]
  constructor
  · intro h
    have htext := isTrailing_flatMap h
    cases hsplit : path.toList.splitOn '/' with
    | nil => exact absurd hsplit (List.splitOn_ne_nil _ _)
    | cons p rest =>
      rwa [hsplit, List.flatMap_cons, List.cons_append, ← eq_append_of_splitOn hsplit] at htext
  · intro h
    obtain ⟨pieces, hsplit, hpieces⟩ := exists_splitOn_of_isTrailing h List.not_mem_nil
    rw [List.nil_append, ← List.nil_append ('/' :: path.toList),
      List.splitOn_append_cons_self_of_not_mem List.not_mem_nil] at hsplit
    rw [(List.cons.inj hsplit).2]
    exact hpieces

/-- The name at the end of a path is the name of a file unless it leads up. -/
theorem fileName?_eq_some_iff : fileName? path = some name ↔ IsLast path name ∧ name ≠ ".." := by
  rw [← getLast?_properComponents_eq_some_iff, properComponents, fileName?]
  cases (components path |>.filter isProper).getLast? with
  | none => simp
  | some last =>
    by_cases hup : last = ".."
    · simp only [hup, beq_self_eq_true, if_true, reduceCtorEq, Option.some.injEq, false_iff]
      rintro ⟨rfl, hne⟩
      exact hne rfl
    · simp only [beq_iff_eq, hup, if_false, Option.some.injEq]
      exact ⟨fun h => ⟨h, h ▸ hup⟩, And.left⟩

theorem fileName?_eq_none_iff :
    fileName? path = none ↔ IsTrailing ('/' :: path.toList) ∨ IsLast path ".." := by
  rw [← getLast?_properComponents_eq_some_iff, ← properComponents_eq_nil_iff, properComponents,
    fileName?, ← List.getLast?_eq_none_iff]
  cases (components path |>.filter isProper).getLast? with
  | none => simp
  | some last => by_cases hup : last = ".." <;> simp [hup]

/-- Directories in front of a name make no difference. -/
theorem fileName?_append_slash (front : String) (h : IsLast path name) :
    fileName? (front ++ "/" ++ path) = fileName? path := by
  have hlast := getLast?_properComponents_eq_some_iff.mpr h
  have hfront : (properComponents (front ++ "/" ++ path)).getLast? = some name := by
    rw [properComponents, components_append_slash, List.filter_append, List.getLast?_append,
      ← properComponents, ← properComponents, hlast, Option.some_or]
  unfold fileName?
  rw [← properComponents, ← properComponents, hfront, hlast]

/-! ## Names below a directory -/

/-- A single component that leads to something below. -/
structure IsFileName (name : String) : Prop where
  proper : name ≠ "" ∧ name ≠ "."
  ne_up : name ≠ ".."
  not_slash : '/' ∉ name.toList

theorem IsLast.isFileName_iff (h : IsLast path name) : IsFileName name ↔ name ≠ ".." :=
  ⟨IsFileName.ne_up, fun hup => ⟨h.proper, hup, h.not_slash⟩⟩

theorem isFileName_of_fileName? (h : fileName? path = some name) : IsFileName name := by
  obtain ⟨hlast, hup⟩ := fileName?_eq_some_iff.mp h
  exact hlast.isFileName_iff.mpr hup

/-- The components that a directory contributes to the paths below it. -/
def parents (directory : String) : List String :=
  if directory = "" then []
  else if directory.toList.getLast? = some '/' then (components directory).dropLast
  else components directory

theorem isAbsolute_of_not_slash (h : '/' ∉ name.toList) : isAbsolute name = false := by
  rw [isAbsolute, beq_eq_false_iff_ne]
  intro hhead
  exact h (List.mem_of_mem_head? (by simp [hhead]))

theorem IsFileName.isAbsolute_eq (h : IsFileName name) : isAbsolute name = false :=
  isAbsolute_of_not_slash h.not_slash

/-- A slash at the end of a directory leaves an empty component behind. -/
theorem components_of_getLast? {directory : String} (h : directory.toList.getLast? = some '/')
    (name : String) :
    components (directory ++ name) = (components directory).dropLast ++ components name := by
  obtain ⟨front, hfront⟩ := List.getLast?_eq_some_iff.mp h
  have hdirectory : components directory = (front.splitOn '/').map String.ofList ++ [""] := by
    rw [components_eq, hfront, List.splitOn_append_cons_self, List.splitOn_nil]
    simp
  rw [hdirectory, List.dropLast_concat, components_eq, String.toList_append, hfront,
    List.append_assoc, List.singleton_append, List.splitOn_append_cons_self, List.map_append,
    ← components_eq name]

/-- A path below a directory has the components of the directory and then its own. -/
theorem components_join {directory : String} (h : isAbsolute name = false) :
    components (join directory name) = parents directory ++ components name := by
  rw [join, h, parents]
  by_cases hempty : directory = ""
  · rw [if_pos (by simp [hempty]), if_pos hempty, List.nil_append]
  · rw [if_neg (by simp [hempty]), if_neg hempty]
    by_cases hslash : directory.toList.getLast? = some '/'
    · rw [if_pos (by simp [hslash]), if_pos hslash, components_of_getLast? hslash]
    · rw [if_neg (by simp [hslash]), if_neg hslash, components_append_slash]

theorem IsFileName.components_join {directory : String} (h : IsFileName name) :
    components (join directory name) = parents directory ++ [name] := by
  rw [Path.components_join h.isAbsolute_eq, components_of_not_slash h.not_slash]

/-- The components of a directory itself may end in one that leads nowhere. -/
theorem components_eq_parents {directory : String} (h : directory ≠ "") :
    components directory = parents directory ∨
      components directory = parents directory ++ [""] := by
  rw [parents, if_neg h]
  by_cases hslash : directory.toList.getLast? = some '/'
  · rw [if_pos hslash]
    obtain ⟨front, hfront⟩ := List.getLast?_eq_some_iff.mp hslash
    right
    rw [components_eq, hfront, List.splitOn_append_cons_self, List.splitOn_nil]
    simp
  · rw [if_neg hslash]
    exact .inl rfl

theorem join_ne_empty {directory : String} (h : name ≠ "") : join directory name ≠ "" := by
  rw [join]
  split
  · exact h
  · split
    · simp [h]
    · simp

theorem length_le_join {directory : String} (h : isAbsolute name = false) :
    directory.utf8ByteSize + name.utf8ByteSize ≤ (join directory name).utf8ByteSize := by
  rw [join, h]
  split
  · rename_i hempty
    have hdirectory : directory = "" := by simpa using hempty
    simp [hdirectory]
  · split
    · exact Nat.le_of_eq String.utf8ByteSize_append.symm
    · rw [String.utf8ByteSize_append, String.utf8ByteSize_append]
      omega

/-- A path below another one still ends as it does. -/
theorem suffix_join (directory name : String) : name.toList <:+ (join directory name).toList := by
  rw [join]
  split
  · exact List.suffix_refl _
  · split
    · rw [String.toList_append]
      exact List.suffix_append _ _
    · rw [String.toList_append]
      exact List.suffix_append _ _

theorem mem_toList_of_join {directory : String} {x : Char} (h : x ∈ (join directory name).toList) :
    x ∈ directory.toList ∨ x = '/' ∨ x ∈ name.toList := by
  rw [join] at h
  split at h
  · exact .inr (.inr h)
  · split at h
    · rw [String.toList_append, List.mem_append] at h
      exact h.imp_right .inr
    · rw [String.toList_append, String.toList_append, List.mem_append, List.mem_append] at h
      rcases h with (h | h) | h
      · exact .inl h
      · exact .inr (.inl (List.mem_singleton.mp h))
      · exact .inr (.inr h)

theorem isAbsolute_append {front : String} (back : String) (h : front ≠ "") :
    isAbsolute (front ++ back) = isAbsolute front := by
  have hne : front.toList ≠ [] := by simpa using h
  rw [isAbsolute, isAbsolute, String.toList_append, List.head?_append_of_ne_nil _ hne]

theorem isAbsolute_join {directory : String} (h : isAbsolute name = false) :
    isAbsolute (join directory name) = isAbsolute directory := by
  rw [join, h]
  by_cases hempty : directory = ""
  · rw [if_pos (by simp [hempty]), hempty, h]
    rfl
  · rw [if_neg (by simp [hempty])]
    by_cases hslash : directory.toList.getLast? = some '/'
    · rw [if_pos (by simp [hslash]), isAbsolute_append name hempty]
    · rw [if_neg (by simp [hslash]), String.append_assoc, isAbsolute_append _ hempty]

end Path

end Paperwork
