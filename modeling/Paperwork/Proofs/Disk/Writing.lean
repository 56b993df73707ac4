import Mathlib.Data.List.Induction
import Mathlib.Data.List.Nodup
import Paperwork.Disk.Basic
import Paperwork.Proofs.Disk.Path
import Paperwork.Proofs.Outcome

/-!
# Writing files

A file is only ever written where no directory stands, so writing leaves the directories of a disk
as they are (`SameDirectories`). Where a path leads to below a directory depends on the directories
alone, apart from the last step (`target_join_of_leads`). So a file that is written into a directory
has no influence on where other names of the same directory lead to (`SameDirectories.target_eq`),
and it is found again under its own path (`read_of_target`).
-/

namespace Paperwork

namespace Disk

variable {d d' : Disk} {place other home : Location} {path name directory : String}

/-! ## Putting files -/

theorem lookup_filter_ne {nodes : List (Location × Node)} (h : other ≠ place) :
    (nodes.filter fun e => e.1 != place).lookup other = nodes.lookup other := by
  induction nodes with
  | nil => rfl
  | cons e rest ih =>
    by_cases hplace : e.1 = place
    · have hother : (other == e.1) = false := by simpa [hplace] using h
      rw [List.filter_cons_of_neg (by simp [hplace]), List.lookup_cons, hother]
      exact ih
    · rw [List.filter_cons_of_pos (by simp [hplace]), List.lookup_cons, List.lookup_cons, ih]

@[simp] theorem workDir_put (d : Disk) (place : Location) (n : Node) :
    (d.put place n).workDir = d.workDir := rfl

theorem node?_put_of_ne (h : other ≠ place) (n : Node) :
    (d.put place n).node? other = d.node? other := by
  have hother : (other == place) = false := by simpa using h
  simp only [node?, put, List.lookup_cons, hother, lookup_filter_ne h]

theorem node?_put_self (h : d.node? place ≠ some .directory) (n : Node) :
    (d.put place n).node? place = some n := by
  have hfree : place.isPrefixOf d.workDir = false := by
    rw [← Bool.not_eq_true]
    intro hprefix
    exact h (by rw [node?, if_pos hprefix])
  rw [node?, workDir_put, hfree]
  simp [put]

/-- Disks whose directories are the same, and that start relative paths in the same one. -/
structure SameDirectories (d d' : Disk) : Prop where
  workDir_eq : d'.workDir = d.workDir
  directory_iff : ∀ place, d'.node? place = some .directory ↔ d.node? place = some .directory

namespace SameDirectories

theorem refl (d : Disk) : SameDirectories d d := ⟨rfl, fun _ => Iff.rfl⟩

theorem trans {d'' : Disk} (h : SameDirectories d d') (h' : SameDirectories d' d'') :
    SameDirectories d d'' :=
  ⟨h'.workDir_eq.trans h.workDir_eq,
    fun place => (h'.directory_iff place).trans (h.directory_iff place)⟩

end SameDirectories

theorem sameDirectories_put (h : d.node? place ≠ some .directory) (bytes : ByteArray) :
    SameDirectories d (d.put place (.file bytes)) := by
  refine ⟨rfl, fun other => ?_⟩
  by_cases heq : other = place
  · subst heq
    simp [node?_put_self h, h]
  · rw [node?_put_of_ne heq]

/-! ## Following paths -/

theorem step_of_directory (h : d.node? place = some .directory) (component : String) :
    d.step place component =
      if !Path.isProper component then .ok place
      else if component == ".." then .ok place.dropLast
      else if maxNameLength < component.utf8ByteSize then .error .nameTooLong
      else .ok (place ++ [component]) := by
  rw [step, h]

theorem step_of_isFileName (h : d.node? place = some .directory) (hname : Path.IsFileName name) :
    d.step place name =
      if maxNameLength < name.utf8ByteSize then .error .nameTooLong else .ok (place ++ [name]) := by
  rw [step_of_directory h, Path.isProper_iff.mpr hname.proper, if_neg (by simp),
    if_neg (by simpa using hname.ne_up)]

theorem directory_of_step {component : String} {next : Location}
    (h : d.step place component = .ok next) : d.node? place = some .directory := by
  unfold step at h
  split at h
  · cases h
  · cases h
  · assumption

theorem SameDirectories.step_eq (h : SameDirectories d d') {component : String} {next : Location}
    (hstep : d.step place component = .ok next) : d'.step place component = .ok next := by
  have hplace := directory_of_step hstep
  rw [step_of_directory hplace] at hstep
  rw [step_of_directory ((h.directory_iff place).mpr hplace), hstep]

/-- All that is passed on the way to a directory is a directory. -/
theorem SameDirectories.follow_eq (h : SameDirectories d d') {components : List String}
    (hhome : d.node? home = some .directory) (hfollow : d.follow place components = .ok home) :
    d'.follow place components = .ok home := by
  induction components generalizing place with
  | nil =>
    have hplace : place = home := by
      rw [follow] at hfollow
      split at hfollow
      · exact Except.ok.inj hfollow
      · cases hfollow
    rw [follow, hplace, (h.directory_iff home).mpr hhome]
  | cons c rest ih =>
    rw [follow, bind_eq_ok_iff] at hfollow ⊢
    obtain ⟨next, hstep, hrest⟩ := hfollow
    exact ⟨next, h.step_eq hstep, ih hrest⟩

/-- Components are followed in two parts. -/
theorem follow_append {components rest : List String} :
    d.follow place (components ++ rest) =
      d.follow place components >>= fun parent => d.follow parent rest := by
  induction components generalizing place with
  | nil =>
    rw [List.nil_append, follow]
    cases hnode : d.node? place with
    | some n => rfl
    | none =>
      show d.follow place rest = .error .notFound
      cases rest with
      | nil => rw [follow, hnode]
      | cons c rest => rw [follow, step, hnode]; rfl
  | cons c others ih =>
    rw [List.cons_append, follow, follow]
    cases d.step place c with
    | error e => rfl
    | ok next => exact ih

theorem follow_concat {components : List String} {component : String} :
    d.follow place (components ++ [component]) =
      d.follow place components >>= fun parent =>
        d.step parent component >>= fun next => d.follow next [] :=
  follow_append

/-! ## Texts that are paths -/

/-- The location where the components of a path start. -/
def start (d : Disk) (path : String) : Location := if Path.isAbsolute path then [] else d.workDir

/-- A text that can be a path at all. -/
structure IsPathText (path : String) : Prop where
  ne_empty : path ≠ ""
  no_nul : '\x00' ∉ path.toList
  length_le : path.utf8ByteSize ≤ maxPathLength

theorem origin_eq_ok_iff :
    d.origin path = .ok place ↔ IsPathText path ∧ place = d.start path := by
  unfold origin
  by_cases hempty : path = ""
  · simp only [hempty, beq_self_eq_true, if_true, reduceCtorEq, false_iff, not_and]
    exact fun h => absurd rfl h.ne_empty
  by_cases hnul : '\x00' ∈ path.toList
  · simp only [beq_iff_eq, hempty, if_false, List.contains_iff_mem, hnul, if_true, reduceCtorEq,
      false_iff, not_and]
    exact fun h => absurd hnul h.no_nul
  by_cases hlength : maxPathLength < path.utf8ByteSize
  · simp only [beq_iff_eq, hempty, if_false, List.contains_iff_mem, hnul, hlength, if_true,
      reduceCtorEq, false_iff, not_and]
    exact fun h => absurd h.length_le (Nat.not_le.mpr hlength)
  · simp only [beq_iff_eq, hempty, if_false, List.contains_iff_mem, hnul, hlength,
      Except.ok.injEq, start]
    exact ⟨fun h => ⟨⟨hempty, hnul, Nat.not_lt.mp hlength⟩, h.symm⟩, fun h => h.2.symm⟩

theorem SameDirectories.start_eq (h : SameDirectories d d') (path : String) :
    d'.start path = d.start path := by
  rw [start, start, h.workDir_eq]

theorem SameDirectories.origin_eq (h : SameDirectories d d') (path : String) :
    d'.origin path = d.origin path := by
  rw [origin, origin, h.workDir_eq]

theorem start_join (d : Disk) (hname : Path.isAbsolute name = false) :
    d.start (Path.join directory name) = d.start directory := by
  rw [start, start, Path.isAbsolute_join hname]

theorem IsPathText.of_join (h : IsPathText (Path.join directory name)) (hne : directory ≠ "")
    (hname : Path.isAbsolute name = false) : IsPathText directory := by
  obtain ⟨back, hback⟩ : ∃ back, Path.join directory name = directory ++ back := by
    rw [Path.join, hname, if_neg (by simp [hne])]
    split
    · exact ⟨name, rfl⟩
    · exact ⟨"/" ++ name, String.append_assoc⟩
  rw [hback] at h
  refine ⟨hne, fun hnul => h.no_nul ?_, ?_⟩
  · rw [String.toList_append]
    exact List.mem_append_left _ hnul
  · have hlength := h.length_le
    rw [String.utf8ByteSize_append] at hlength
    omega

/-! ## Files below a directory -/

/-- A path leads through directories to a directory. -/
structure Leads (d : Disk) (directory : String) (home : Location) : Prop where
  follow_eq : d.follow (d.start directory) (Path.parents directory) = .ok home
  node_eq : d.node? home = some .directory

theorem Leads.of_sameDirectories (h : d.Leads directory home) (hsame : SameDirectories d d') :
    d'.Leads directory home := by
  refine ⟨?_, (hsame.directory_iff home).mpr h.node_eq⟩
  rw [hsame.start_eq]
  exact hsame.follow_eq h.node_eq h.follow_eq

/-- There is a directory where a path leads to; the empty path leads to the working directory. -/
def IsDirectoryAt (d : Disk) (path : String) (home : Location) : Prop :=
  d.node? home = some .directory ∧ if path = "" then home = d.workDir else d.find path = .ok home

/-- A directory in which a file can be named is found at the end of its path. -/
theorem Leads.isDirectoryAt (h : d.Leads directory home) (hname : Path.isAbsolute name = false)
    (htext : IsPathText (Path.join directory name)) : d.IsDirectoryAt directory home := by
  refine ⟨h.node_eq, ?_⟩
  by_cases hempty : directory = ""
  · subst hempty
    have hhome : d.follow d.workDir [] = .ok home := h.follow_eq
    rw [follow] at hhome
    rw [if_pos rfl]
    split at hhome
    · exact (Except.ok.inj hhome).symm
    · cases hhome
  · have horigin : d.origin directory = .ok (d.start directory) :=
      origin_eq_ok_iff.mpr ⟨htext.of_join hempty hname, rfl⟩
    rw [if_neg hempty, find, bind_eq_ok_iff]
    refine ⟨d.start directory, horigin, ?_⟩
    rcases Path.components_eq_parents hempty with heq | heq
    · rw [heq, h.follow_eq]
    · -- a slash at the end steps from the directory to itself
      have hstay : d.step home "" = .ok home := by rw [step_of_directory h.node_eq]; rfl
      rw [heq, follow_concat, h.follow_eq]
      show (d.step home "" >>= _) = _
      rw [hstay]
      show d.follow home [] = _
      rw [follow, h.node_eq]

/-- The last step to the target of a path: no directory may stand there. -/
def land (d : Disk) (parent place : Location) : Except DiskError Location :=
  if place = parent then .error .isADirectory
  else match d.node? place with
    | some .directory => .error .isADirectory
    | _ => .ok place

theorem land_of_directory {parent : Location} (h : d.node? place = some .directory) :
    d.land parent place = .error .isADirectory := by
  rw [land, h, ite_self]

theorem land_of_not_directory {parent : Location} (h : d.node? place ≠ some .directory) :
    d.land parent place = if place = parent then .error .isADirectory else .ok place := by
  cases hnode : d.node? place with
  | none => simp only [land, hnode]
  | some n =>
    cases n with
    | file contents => simp only [land, hnode]
    | directory => contradiction

theorem not_directory_of_land {parent next : Location} (h : d.land parent next = .ok place) :
    d.node? next ≠ some .directory ∧ next = place := by
  by_cases hdirectory : d.node? next = some .directory
  · rw [land_of_directory hdirectory] at h
    cases h
  · rw [land_of_not_directory hdirectory] at h
    split at h
    · cases h
    · exact ⟨hdirectory, Except.ok.inj h⟩

theorem SameDirectories.land_eq (h : SameDirectories d d') (parent place : Location) :
    d'.land parent place = d.land parent place := by
  by_cases hdirectory : d.node? place = some .directory
  · rw [land_of_directory hdirectory, land_of_directory ((h.directory_iff place).mpr hdirectory)]
  · rw [land_of_not_directory hdirectory,
      land_of_not_directory (mt (h.directory_iff place).mp hdirectory)]

/-- The steps to the target of a path below a directory. -/
theorem target_join (hname : Path.IsFileName name) :
    d.target (Path.join directory name) =
      d.origin (Path.join directory name) >>= fun start =>
        d.follow start (Path.parents directory) >>= fun parent =>
          d.step parent name >>= fun place => d.land parent place := by
  have hup : (name == "..") = false := by simpa using hname.ne_up
  simp only [target, hname.components_join, List.dropLast_concat,
    List.getLast?_concat, hup, Bool.or_false, decide_eq_true_eq]
  rfl

/-- Below a directory a path leads to its name, unless it is too long or a directory itself. -/
theorem target_join_of_leads (h : d.Leads directory home) (hname : Path.IsFileName name) :
    d.target (Path.join directory name) =
      d.origin (Path.join directory name) >>= fun _ =>
        if maxNameLength < name.utf8ByteSize then .error .nameTooLong
        else d.land home (home ++ [name]) := by
  rw [target_join hname]
  cases horigin : d.origin (Path.join directory name) with
  | error e => rfl
  | ok place =>
    rw [(origin_eq_ok_iff.mp horigin).2, start_join d hname.isAbsolute_eq]
    show (d.follow (d.start directory) (Path.parents directory) >>= _) = _
    rw [h.follow_eq]
    show (d.step home name >>= _) = _
    rw [step_of_isFileName h.node_eq hname]
    by_cases hlong : maxNameLength < name.utf8ByteSize
    · rw [if_pos hlong]
      exact (if_pos hlong).symm
    · rw [if_neg hlong]
      exact (if_neg hlong).symm

/-- A file that can be written below a directory has its place in that directory. -/
theorem leads_of_target (hname : Path.IsFileName name)
    (h : d.target (Path.join directory name) = .ok place) :
    ∃ home, d.Leads directory home ∧ d.IsDirectoryAt directory home ∧ place = home ++ [name] ∧
      d.node? place ≠ some .directory := by
  have hsteps := h
  rw [target_join hname, bind_eq_ok_iff] at hsteps
  obtain ⟨origin, horigin, hsteps⟩ := hsteps
  obtain ⟨home, hfollow, hsteps⟩ := bind_eq_ok_iff.mp hsteps
  obtain ⟨next, hstep, -⟩ := bind_eq_ok_iff.mp hsteps
  obtain ⟨htext, rfl⟩ := origin_eq_ok_iff.mp horigin
  rw [start_join d hname.isAbsolute_eq] at hfollow
  have hhome : d.Leads directory home := ⟨hfollow, directory_of_step hstep⟩
  rw [target_join_of_leads hhome hname, bind_eq_ok_iff] at h
  obtain ⟨-, -, h⟩ := h
  split at h
  · cases h
  · obtain ⟨hfree, rfl⟩ := not_directory_of_land h
    exact ⟨home, hhome, hhome.isDirectoryAt hname.isAbsolute_eq htext, rfl, hfree⟩

/-- Files that are written below a directory do not change where its paths lead to. -/
theorem SameDirectories.target_eq (hsame : SameDirectories d d') (h : d.Leads directory home)
    (hname : Path.IsFileName name) :
    d'.target (Path.join directory name) = d.target (Path.join directory name) := by
  rw [target_join_of_leads h hname, target_join_of_leads (h.of_sameDirectories hsame) hname,
    hsame.origin_eq, hsame.land_eq]

/-- Paths below a directory lead to the same places on two disks. -/
def SameTargets (directory : String) (d d' : Disk) : Prop :=
  ∀ name, Path.IsFileName name →
    d'.target (Path.join directory name) = d.target (Path.join directory name)

theorem SameTargets.refl (directory : String) (d : Disk) : SameTargets directory d d :=
  fun _ _ => rfl

theorem SameTargets.trans {d'' : Disk} (h : SameTargets directory d d')
    (h' : SameTargets directory d' d'') : SameTargets directory d d'' :=
  fun name hname => (h' name hname).trans (h name hname)

/-- A file that is written below a directory leaves all paths below the directory alone. -/
theorem sameTargets_put (hname : Path.IsFileName name)
    (h : d.target (Path.join directory name) = .ok place) (bytes : ByteArray) :
    SameTargets directory d (d.put place (.file bytes)) := by
  obtain ⟨home, hleads, -, -, hfree⟩ := leads_of_target hname h
  exact fun other hother => (sameDirectories_put hfree bytes).target_eq hleads hother

/-- Different names below a directory lead to different places. -/
theorem eq_of_target_eq {name' : String} (hname : Path.IsFileName name)
    (hname' : Path.IsFileName name') (h : d.target (Path.join directory name) = .ok place)
    (h' : d.target (Path.join directory name') = .ok place) : name = name' := by
  obtain ⟨home, -, -, hplace, -⟩ := leads_of_target hname h
  obtain ⟨home', -, -, hplace', -⟩ := leads_of_target hname' h'
  exact (List.append_singleton_inj.mp (hplace.symm.trans hplace')).2

/-! ## Reading what was written -/

/-- A path is found at its target as soon as something stands there. -/
theorem find_of_target (h : d.target path = .ok place) (hnode : (d.node? place).isSome) :
    d.find path = .ok place := by
  simp only [target, bind_eq_ok_iff] at h
  obtain ⟨origin, horigin, parent, hparent, h⟩ := h
  split at h
  · cases h
  · rename_i name hlast
    obtain ⟨next, hnext, h⟩ := bind_eq_ok_iff.mp h
    have hplace : next = place := by
      split at h
      · cases h
      · split at h
        · cases h
        · exact Except.ok.inj h
    have hcomponents : Path.components path = (Path.components path).dropLast ++ [name] :=
      (List.dropLast_append_getLast? name hlast).symm
    rw [find, bind_eq_ok_iff]
    refine ⟨origin, horigin, ?_⟩
    rw [hcomponents, follow_concat, hparent]
    show (d.step parent name >>= _) = _
    rw [hnext, hplace]
    show d.follow place [] = _
    rw [follow]
    obtain ⟨n, hn⟩ := Option.isSome_iff_exists.mp hnode
    rw [hn]

/-- The bytes of the file at the target of a path are read under that path. -/
theorem read_of_target {bytes : ByteArray} (h : d.target path = .ok place)
    (hnode : d.node? place = some (.file bytes)) : d.read path = .ok bytes := by
  rw [read, bind_eq_ok_iff]
  exact ⟨place, find_of_target h (by rw [hnode]; rfl), by rw [hnode]⟩

/-! ## Several files -/

/-- A disk after files were put on it in turn. -/
def putFiles (d : Disk) (files : List (Location × ByteArray)) : Disk :=
  files.foldl (fun d file => d.put file.1 (.file file.2)) d

variable {files rest order : List (Location × ByteArray)} {bytes : ByteArray}

theorem putFiles_cons (d : Disk) (file : Location × ByteArray) :
    d.putFiles (file :: rest) = (d.put file.1 (.file file.2)).putFiles rest := rfl

theorem putFiles_append (d : Disk) :
    d.putFiles (files ++ rest) = (d.putFiles files).putFiles rest := by
  rw [putFiles, List.foldl_append]
  rfl

/-- Files are put where no directory stands. -/
def AreFree (d : Disk) (files : List (Location × ByteArray)) : Prop :=
  ∀ file ∈ files, d.node? file.1 ≠ some .directory

theorem AreFree.sameDirectories (h : d.AreFree files) : SameDirectories d (d.putFiles files) := by
  induction files generalizing d with
  | nil => exact .refl d
  | cons file rest ih =>
    obtain ⟨hfile, hrest⟩ := List.forall_mem_cons.mp h
    have hsame := sameDirectories_put hfile file.2
    refine hsame.trans (ih fun other hother => ?_)
    exact mt (hsame.directory_iff other.1).mp (hrest other hother)

/-- Nothing changes where no file is put. -/
theorem node?_putFiles_of_not_mem (h : place ∉ files.map Prod.fst) :
    (d.putFiles files).node? place = d.node? place := by
  induction files generalizing d with
  | nil => rfl
  | cons file rest ih =>
    rw [List.map_cons, List.mem_cons, not_or] at h
    rw [putFiles_cons, ih h.2, node?_put_of_ne h.1]

/-- Where files change a disk, one of them stands. -/
theorem exists_file_of_node?_putFiles_ne (hfree : d.AreFree files)
    (hchanged : (d.putFiles files).node? place ≠ d.node? place) :
    ∃ bytes, (place, bytes) ∈ files ∧ (d.putFiles files).node? place = some (.file bytes) := by
  induction files using List.reverseRecOn with
  | nil => exact absurd rfl hchanged
  | append_singleton files file ih =>
    have hbefore : d.AreFree files :=
      fun other hother => hfree other (List.mem_append_left _ hother)
    rw [putFiles_append] at hchanged ⊢
    by_cases hplace : place = file.1
    · subst hplace
      have hnode : (d.putFiles files).node? file.1 ≠ some .directory :=
        mt (hbefore.sameDirectories.directory_iff file.1).mp (hfree file (by simp))
      exact ⟨file.2, by simp, node?_put_self hnode _⟩
    · have hsame : ((d.putFiles files).putFiles [file]).node? place =
          (d.putFiles files).node? place := node?_put_of_ne hplace _
      rw [hsame] at hchanged ⊢
      obtain ⟨bytes, hfile, hnode⟩ := ih hbefore hchanged
      exact ⟨bytes, List.mem_append_left _ hfile, hnode⟩

/-- The last file that is put at a location stands there. -/
theorem node?_putFiles_append_cons (hfree : d.AreFree (files ++ (place, bytes) :: rest))
    (hlast : place ∉ rest.map Prod.fst) :
    (d.putFiles (files ++ (place, bytes) :: rest)).node? place = some (.file bytes) := by
  have hbefore : d.AreFree files := fun file hfile => hfree file (List.mem_append_left _ hfile)
  have hplace : (d.putFiles files).node? place ≠ some .directory :=
    mt (hbefore.sameDirectories.directory_iff place).mp (hfree (place, bytes) (by simp))
  rw [putFiles_append, putFiles_cons, node?_putFiles_of_not_mem hlast, node?_put_self hplace]

/-- What stands on two disks is the same, and relative paths start in the same directory. -/
structure Same (d d' : Disk) : Prop where
  workDir_eq : d'.workDir = d.workDir
  node?_eq : ∀ place, d'.node? place = d.node? place

/-- Files at different locations can be put in any order. -/
theorem same_putFiles_of_perm (hfree : d.AreFree files) (hdistinct : (files.map Prod.fst).Nodup)
    (hperm : order.Perm files) : Same (d.putFiles files) (d.putFiles order) := by
  have horder : d.AreFree order := fun file hfile => hfree file (hperm.mem_iff.mp hfile)
  have hstands : ∀ list : List (Location × ByteArray), d.AreFree list →
      (list.map Prod.fst).Nodup → ∀ file ∈ list,
        (d.putFiles list).node? file.1 = some (.file file.2) := by
    intro list hfree hdistinct file hfile
    obtain ⟨before, after, rfl⟩ := List.append_of_mem hfile
    rw [List.map_append, List.map_cons, List.nodup_append', List.nodup_cons] at hdistinct
    exact node?_putFiles_append_cons hfree hdistinct.2.1.1
  refine ⟨?_, fun place => ?_⟩
  · rw [horder.sameDirectories.workDir_eq, hfree.sameDirectories.workDir_eq]
  · by_cases hplace : place ∈ files.map Prod.fst
    · obtain ⟨file, hfile, rfl⟩ := List.mem_map.mp hplace
      rw [hstands files hfree hdistinct file hfile, hstands order horder
        ((hperm.map Prod.fst).nodup_iff.mpr hdistinct) file (hperm.mem_iff.mpr hfile)]
    · rw [node?_putFiles_of_not_mem hplace,
        node?_putFiles_of_not_mem (mt (hperm.map Prod.fst).mem_iff.mp hplace)]

end Disk

end Paperwork
