import Paperwork.Proofs.Disk.Writing

/-!
# Reading files

No disk has links, so where a path leads to is known from its components, as long as everything on
the way is there (`Path.walk`, `walk_of_follow`). A name leads from a directory to its destination
(`Path.destination`), which lies below the directory unless the name is absolute or leads up. On a
disk where everything stands in a directory (`Disk.IsTree`) every file below a directory is found
under its components (`bytes?_join`).
-/

namespace Paperwork

/-! ## Where components lead to -/

namespace Path

variable {home place : Location} {name component : String} {components : List String}

/-- The location that a component leads to. -/
def turn (place : Location) (component : String) : Location :=
  if !isProper component then place
  else if component == ".." then place.dropLast
  else place ++ [component]

/-- The location that components lead to in turn. -/
def walk (place : Location) (components : List String) : Location := components.foldl turn place

/-- The location that a name leads to from a directory. -/
def destination (home : Location) (name : String) : Location :=
  walk (if isAbsolute name then [] else home) (Path.components name)

/-- A name that leads away from a directory, to a location that is not below it. -/
def LeadsOutside (home : Location) (name : String) : Prop := ¬ home <+: destination home name

theorem turn_of_isProper (h : isProper component = true) (hup : component ≠ "..") :
    turn place component = place ++ [component] := by
  rw [turn, h, if_neg (by simp), if_neg (by simpa using hup)]

theorem walk_of_not_up (h : ".." ∉ components) :
    walk place components = place ++ components.filter isProper := by
  induction components generalizing place with
  | nil => simp [walk]
  | cons c rest ih =>
    obtain ⟨hc, hrest⟩ := List.ne_and_not_mem_of_not_mem_cons h
    show walk (turn place c) rest = _
    rw [ih hrest]
    by_cases hproper : isProper c = true
    · rw [turn_of_isProper hproper (Ne.symm hc), List.filter_cons_of_pos hproper,
        List.append_assoc, List.singleton_append]
    · have hstay : turn place c = place := by simp [turn, hproper]
      rw [hstay, List.filter_cons_of_neg hproper]

/-- A relative name that never leads up leads to its own components below the directory. -/
theorem destination_of_not_up (habsolute : isAbsolute name = false)
    (hup : ".." ∉ Path.components name) :
    destination home name = home ++ properComponents name := by
  rw [destination, habsolute, if_neg Bool.false_ne_true, walk_of_not_up hup, properComponents]

theorem not_leadsOutside (habsolute : isAbsolute name = false)
    (hup : ".." ∉ Path.components name) : ¬ LeadsOutside home name := by
  rw [LeadsOutside, not_not, destination_of_not_up habsolute hup]
  exact List.prefix_append home _

/-! ## Names of ordinary components -/

instance (name : String) : Decidable (IsFileName name) :=
  decidable_of_iff ((name ≠ "" ∧ name ≠ ".") ∧ name ≠ ".." ∧ '/' ∉ name.toList)
    ⟨fun h => ⟨h.1, h.2.1, h.2.2⟩, fun h => ⟨h.proper, h.ne_up, h.not_slash⟩⟩

/-- A name all of whose components lead to something below. -/
def IsOrdinary (name : String) : Prop := ∀ c ∈ Path.components name, IsFileName c

instance (name : String) : Decidable (IsOrdinary name) :=
  inferInstanceAs (Decidable (∀ c ∈ Path.components name, IsFileName c))

namespace IsOrdinary

theorem of_isFileName (h : IsFileName name) : IsOrdinary name := by
  rw [IsOrdinary, components_of_not_slash h.not_slash]
  simpa using h

theorem ne_empty (h : IsOrdinary name) : name ≠ "" := by
  rintro rfl
  have hempty : "" ∈ Path.components "" := by
    rw [components_of_not_slash (by simp)]
    exact List.mem_singleton_self _
  exact (h "" hempty).proper.1 rfl

/-- An absolute name has an empty component in front. -/
theorem isAbsolute_eq (h : IsOrdinary name) : isAbsolute name = false := by
  rw [← Bool.not_eq_true]
  intro habsolute
  obtain ⟨rest, hrest⟩ : ∃ rest, name.toList = '/' :: rest := by
    rw [isAbsolute, beq_iff_eq] at habsolute
    exact List.head?_eq_some_iff.mp habsolute
  have hempty : "" ∈ Path.components name := by
    rw [components_eq, hrest, ← List.nil_append ('/' :: rest), List.splitOn_append_cons_self]
    simp
  exact (h "" hempty).proper.1 rfl

theorem properComponents_eq (h : IsOrdinary name) :
    properComponents name = Path.components name :=
  List.filter_eq_self.mpr fun c hc => isProper_iff.mpr (h c hc).proper

theorem not_up (h : IsOrdinary name) : ".." ∉ Path.components name :=
  fun hmem => (h ".." hmem).ne_up rfl

theorem destination_eq (h : IsOrdinary name) :
    destination home name = home ++ Path.components name := by
  rw [destination_of_not_up h.isAbsolute_eq h.not_up, h.properComponents_eq]

end IsOrdinary

/-- A path is what its components spell. -/
theorem components_injective {a b : String} (h : Path.components a = Path.components b) :
    a = b := by
  rw [components_eq, components_eq] at h
  have hpieces : a.toList.splitOn '/' = b.toList.splitOn '/' :=
    List.map_injective_iff.mpr (fun _ _ heq => String.ofList_injective heq) h
  have htext := congrArg ['/'].intercalate hpieces
  rw [List.intercalate_splitOn, List.intercalate_splitOn] at htext
  exact String.toList_inj.mp htext

end Path

/-! ## Where paths lead to -/

namespace Disk

variable {d : Disk} {place next home : Location} {path name directory : String} {n : Node}
  {bytes : ByteArray} {components : List String}

theorem turn_of_step {component : String} (h : d.step place component = .ok next) :
    next = Path.turn place component := by
  rw [step_of_directory (directory_of_step h)] at h
  rw [Path.turn]
  split at h
  · rw [if_pos ‹_›]
    exact (Except.ok.inj h).symm
  · rw [if_neg ‹_›]
    split at h
    · rw [if_pos ‹_›]
      exact (Except.ok.inj h).symm
    · rw [if_neg ‹_›]
      split at h
      · cases h
      · exact (Except.ok.inj h).symm

theorem walk_of_follow (h : d.follow place components = .ok next) :
    next = Path.walk place components := by
  induction components generalizing place with
  | nil =>
    rw [follow] at h
    split at h
    · exact (Except.ok.inj h).symm
    · cases h
  | cons c rest ih =>
    rw [follow, bind_eq_ok_iff] at h
    obtain ⟨between, hstep, hrest⟩ := h
    rw [ih hrest, turn_of_step hstep]
    rfl

/-- A directory is reached through directories. -/
theorem IsDirectoryAt.leads (h : d.IsDirectoryAt directory home) : d.Leads directory home := by
  obtain ⟨hnode, hfind⟩ := h
  refine ⟨?_, hnode⟩
  by_cases hempty : directory = ""
  · rw [if_pos hempty] at hfind
    rw [hempty]
    show d.follow d.workDir [] = _
    rw [follow, ← hfind, hnode]
  · rw [if_neg hempty, find, bind_eq_ok_iff] at hfind
    obtain ⟨origin, horigin, hfollow⟩ := hfind
    rw [(origin_eq_ok_iff.mp horigin).2] at hfollow
    rcases Path.components_eq_parents hempty with heq | heq
    · rwa [heq] at hfollow
    · rw [heq, follow_concat, bind_eq_ok_iff] at hfollow
      obtain ⟨parent, hparent, hfollow⟩ := hfollow
      obtain ⟨stay, hstep, hfollow⟩ := bind_eq_ok_iff.mp hfollow
      -- a slash at the end steps from the directory to itself
      have hstay : stay = parent := turn_of_step hstep
      have hhome : home = stay := walk_of_follow hfollow
      rwa [hhome, hstay]

/-- A name is followed from the directory, and an absolute one from the root. -/
theorem find_join (h : d.Leads directory home) (name : String) :
    d.find (Path.join directory name) = d.origin (Path.join directory name) >>= fun _ =>
      d.follow (if Path.isAbsolute name then [] else home) (Path.components name) := by
  rw [find]
  cases horigin : d.origin (Path.join directory name) with
  | error e => rfl
  | ok origin =>
    show d.follow origin _ = d.follow _ _
    rw [(origin_eq_ok_iff.mp horigin).2]
    by_cases habsolute : Path.isAbsolute name = true
    · have hjoin : Path.join directory name = name := by simp [Path.join, habsolute]
      rw [hjoin, start, if_pos habsolute, if_pos habsolute]
    · rw [Bool.not_eq_true] at habsolute
      rw [start_join d habsolute, Path.components_join habsolute, habsolute,
        if_neg Bool.false_ne_true, follow_append, h.follow_eq]
      rfl

theorem place_of_find_join (h : d.Leads directory home)
    (hfind : d.find (Path.join directory name) = .ok place) :
    place = Path.destination home name := by
  rw [find_join h, bind_eq_ok_iff] at hfind
  obtain ⟨-, -, hfollow⟩ := hfind
  exact walk_of_follow hfollow

/-! ## What paths lead to -/

/-- The bytes of the file that a path leads to. -/
def bytes? (d : Disk) (path : String) : Option ByteArray :=
  match d.look? path with
  | some (.file contents) => some contents
  | _ => none

theorem bytes?_eq_some_iff :
    d.bytes? path = some bytes ↔
      ∃ place, d.find path = .ok place ∧ d.node? place = some (.file bytes) := by
  rw [bytes?, look?]
  cases d.find path with
  | error e => simp
  | ok place => cases hnode : d.node? place with
    | none => simp [hnode]
    | some n => cases n <;> simp [hnode]

theorem isFile_eq (d : Disk) (path : String) : d.isFile path = (d.bytes? path).isSome := by
  rw [isFile, bytes?]
  cases d.look? path with
  | none => rfl
  | some n => cases n <;> rfl

theorem read_of_bytes? (h : d.bytes? path = some bytes) : d.read path = .ok bytes := by
  obtain ⟨place, hfind, hnode⟩ := bytes?_eq_some_iff.mp h
  rw [read, bind_eq_ok_iff]
  exact ⟨place, hfind, by rw [hnode]⟩

/-- Nothing is read under a path that is too long. -/
theorem bytes?_of_length (h : maxPathLength < path.utf8ByteSize) : d.bytes? path = none := by
  rw [Option.eq_none_iff_forall_ne_some]
  intro bytes hbytes
  obtain ⟨place, hfind, -⟩ := bytes?_eq_some_iff.mp hbytes
  rw [find, bind_eq_ok_iff] at hfind
  obtain ⟨origin, horigin, -⟩ := hfind
  exact absurd (origin_eq_ok_iff.mp horigin).1.length_le (Nat.not_le.mpr h)

/-- The bytes that are read under a name are those of the file at its destination. -/
theorem node?_destination (h : d.IsDirectoryAt directory home)
    (hbytes : d.bytes? (Path.join directory name) = some bytes) :
    d.node? (Path.destination home name) = some (.file bytes) := by
  obtain ⟨place, hfind, hnode⟩ := bytes?_eq_some_iff.mp hbytes
  rwa [← place_of_find_join h.leads hfind]

/-- A file at the destination of a name that does not lead outside is located below. -/
theorem exists_rest_of_not_leadsOutside (h : d.IsDirectoryAt directory home)
    (hnode : d.node? (Path.destination home name) = some (.file bytes))
    (hname : ¬ Path.LeadsOutside home name) :
    ∃ rest, rest ≠ [] ∧ Path.destination home name = home ++ rest := by
  obtain ⟨rest, hrest⟩ := not_not.mp hname
  refine ⟨rest, ?_, hrest.symm⟩
  rintro rfl
  rw [List.append_nil] at hrest
  rw [← hrest, h.1] at hnode
  cases hnode

/-! ## Trees -/

/-- A name that something on a disk can have. -/
structure Fits (name : String) : Prop where
  length_le : name.utf8ByteSize ≤ maxNameLength
  no_nul : '\x00' ∉ name.toList

theorem step_of_fits (h : d.node? place = some .directory) (hname : Path.IsFileName name)
    (hfits : Fits name) : d.step place name = .ok (place ++ [name]) := by
  rw [step_of_isFileName h hname, if_neg (Nat.not_lt.mpr hfits.length_le)]

/-- A directory in the working directory is found under its name. -/
theorem isDirectoryAt_of_isFileName (hname : Path.IsFileName name) (hfits : Fits name)
    (hworkDir : d.node? d.workDir = some .directory)
    (hhome : d.node? (d.workDir ++ [name]) = some .directory) :
    d.IsDirectoryAt name (d.workDir ++ [name]) := by
  have htext : IsPathText name :=
    ⟨hname.proper.1, hfits.no_nul, Nat.le_trans hfits.length_le (by decide)⟩
  refine ⟨hhome, ?_⟩
  rw [if_neg htext.ne_empty, find, origin_eq_ok_iff.mpr ⟨htext, rfl⟩, start, hname.isAbsolute_eq,
    Path.components_of_not_slash hname.not_slash]
  show d.follow d.workDir [name] = _
  rw [follow, step_of_fits hworkDir hname hfits]
  show d.follow _ [] = _
  rw [follow, hhome]

/-- Everything on a disk stands in a directory. -/
structure IsTree (d : Disk) : Prop where
  parent : ∀ place name n, d.node? (place ++ [name]) = some n → d.node? place = some .directory
  fits : ∀ place name n, d.node? (place ++ [name]) = some n → Fits name

namespace IsTree

theorem blank {workDir : Location} (h : ∀ name ∈ workDir, Fits name) :
    (Disk.blank workDir).IsTree := by
  have hnode : ∀ place n, (Disk.blank workDir).node? place = some n →
      n = .directory ∧ place <+: workDir := by
    intro place n hn
    rw [node?] at hn
    split at hn
    · exact ⟨(Option.some.inj hn).symm, List.isPrefixOf_iff_prefix.mp ‹_›⟩
    · cases hn
  constructor
  · intro place name n hn
    have hprefix : place <+: workDir := (List.prefix_append place [name]).trans (hnode _ _ hn).2
    rw [node?, Disk.blank, if_pos (List.isPrefixOf_iff_prefix.mpr hprefix)]
  · intro place name n hn
    exact h name ((hnode _ _ hn).2.subset (by simp))

/-- Something new in a directory leaves a tree a tree. -/
theorem put (h : d.IsTree) (hplace : d.node? place = some .directory) (hname : Fits name)
    (hfree : d.node? (place ++ [name]) ≠ some .directory) (n : Node) :
    (d.put (place ++ [name]) n).IsTree := by
  have hdirectory : ∀ other, d.node? other = some .directory →
      (d.put (place ++ [name]) n).node? other = some .directory := by
    intro other hother
    rw [node?_put_of_ne, hother]
    rintro rfl
    exact hfree hother
  constructor
  · intro other c m hm
    by_cases heq : other ++ [c] = place ++ [name]
    · rw [(List.append_singleton_inj.mp heq).1]
      exact hdirectory place hplace
    · rw [node?_put_of_ne heq] at hm
      exact hdirectory other (h.parent other c m hm)
  · intro other c m hm
    by_cases heq : other ++ [c] = place ++ [name]
    · rwa [(List.append_singleton_inj.mp heq).2]
    · rw [node?_put_of_ne heq] at hm
      exact h.fits other c m hm

/-- On the way to something there are only directories. -/
theorem directory_of_append (h : d.IsTree) {c : String} {rest : List String}
    (hn : d.node? (place ++ c :: rest) = some n) :
    d.node? place = some .directory ∧ Fits c := by
  induction rest using List.reverseRecOn generalizing n with
  | nil => exact ⟨h.parent place c n hn, h.fits place c n hn⟩
  | append_singleton rest last ih =>
    rw [← List.cons_append, ← List.append_assoc] at hn
    exact ih (h.parent _ _ _ hn)

/-- Whatever is there is found by following its components. -/
theorem follow_eq (h : d.IsTree) (hcomponents : ∀ c ∈ components, Path.IsFileName c)
    (hn : d.node? (place ++ components) = some n) :
    d.follow place components = .ok (place ++ components) := by
  induction components generalizing place with
  | nil =>
    rw [List.append_nil] at hn
    rw [follow, hn, List.append_nil]
  | cons c rest ih =>
    obtain ⟨hc, hrest⟩ := List.forall_mem_cons.mp hcomponents
    obtain ⟨hplace, hfits⟩ := h.directory_of_append hn
    have happend : place ++ c :: rest = (place ++ [c]) ++ rest := by simp
    rw [happend] at hn ⊢
    rw [follow, step_of_fits hplace hc hfits]
    exact ih hrest hn

end IsTree

/-- The file that stands below a location under a name of ordinary components. -/
def fileBelow? (d : Disk) (home : Location) (name : String) : Option ByteArray :=
  if Path.IsOrdinary name then
    match d.node? (home ++ Path.components name) with
    | some (.file contents) => some contents
    | _ => none
  else none

theorem fileBelow?_eq_some_iff :
    d.fileBelow? home name = some bytes ↔
      Path.IsOrdinary name ∧ d.node? (home ++ Path.components name) = some (.file bytes) := by
  rw [fileBelow?]
  by_cases hname : Path.IsOrdinary name
  · rw [if_pos hname]
    cases hnode : d.node? (home ++ Path.components name) with
    | none => simp
    | some n => cases n <;> simp [hname]
  · simp [hname]

/-- The paths of the files below a directory are not longer than a path can be. -/
def InReach (d : Disk) (directory : String) (home : Location) : Prop :=
  ∀ name, (d.fileBelow? home name).isSome →
    (Path.join directory name).utf8ByteSize ≤ maxPathLength

theorem IsDirectoryAt.no_nul (h : d.IsDirectoryAt directory home) : '\x00' ∉ directory.toList := by
  by_cases hempty : directory = ""
  · simp [hempty]
  · have hfind := h.2
    rw [if_neg hempty, find, bind_eq_ok_iff] at hfind
    obtain ⟨origin, horigin, -⟩ := hfind
    exact (origin_eq_ok_iff.mp horigin).1.no_nul

/-- In a tree the files below a directory are read under their names. -/
theorem bytes?_join (h : d.IsTree) (hhome : d.IsDirectoryAt directory home)
    (hreach : d.InReach directory home) (hname : Path.IsOrdinary name) :
    d.bytes? (Path.join directory name) = d.fileBelow? home name := by
  refine Option.ext fun bytes => ?_
  constructor
  · intro hbytes
    have hnode := node?_destination hhome hbytes
    rw [hname.destination_eq] at hnode
    exact fileBelow?_eq_some_iff.mpr ⟨hname, hnode⟩
  · intro hfile
    obtain ⟨-, hnode⟩ := fileBelow?_eq_some_iff.mp hfile
    have hfits : ∀ c ∈ Path.components name, Fits c := by
      intro c hc
      obtain ⟨before, after, heq⟩ := List.append_of_mem hc
      rw [heq, ← List.append_assoc] at hnode
      exact (h.directory_of_append hnode).2
    have htext : IsPathText (Path.join directory name) := by
      refine ⟨Path.join_ne_empty hname.ne_empty, ?_, hreach name (by rw [hfile]; rfl)⟩
      intro hnul
      rcases Path.mem_toList_of_join hnul with hdirectory | hslash | hnul
      · exact hhome.no_nul hdirectory
      · cases hslash
      · obtain ⟨c, hc, hnul⟩ := Path.exists_mem_components hnul (by decide)
        exact (hfits c hc).no_nul hnul
    refine bytes?_eq_some_iff.mpr ⟨home ++ Path.components name, ?_, hnode⟩
    rw [find_join hhome.leads, origin_eq_ok_iff.mpr ⟨htext, rfl⟩]
    show d.follow _ _ = _
    rw [hname.isAbsolute_eq, if_neg Bool.false_ne_true]
    exact h.follow_eq hname hnode

end Disk

end Paperwork
