import Paperwork.Archive.Writer
import Paperwork.Proofs.Package.Directory

/-!
# Directories and archives

A directory and an archive that hold the same files are the same package, if the documents have
names of ordinary components (`ofDirectory_agrees_ofArchive`). The archive is given by what it reads
back (`Archive.Holds`). The paths of the files in the directory have to be short enough to be
paths at all: a directory can be written with so many detours that no file in it can be named any
more (`detour_disagrees`).
-/

namespace Paperwork

/-! ## Archives of files -/

namespace Archive

variable {a : Archive} {files : String → Option ByteArray} {name : String}

/-- The members of an archive are the given files, and each has the bytes of its file. -/
structure Holds (a : Archive) (files : String → Option ByteArray) : Prop where
  listed : ∀ name, (a.listing? name).isSome ↔ files name ≠ none
  readable : ∀ name bytes l, files name = some bytes → a.listing? name = some l →
    ∃ m, a.open? l = .ok m ∧ m.contents? = .ok bytes

theorem contains_names (a : Archive) (name : String) :
    a.names.contains name = (a.listing? name).isSome := by
  rw [names, listing?, Bool.eq_iff_iff, List.contains_iff_mem, List.find?_isSome]
  simp [List.mem_map]

/-- The bytes that an entry leads to. -/
def bytes? (a : Archive) (l : Listing) : Option ByteArray :=
  match a.open? l with
  | .ok m => m.contents?.toOption
  | .error _ => none

theorem bytes?_eq_some_iff {l : Listing} {bytes : ByteArray} :
    a.bytes? l = some bytes ↔ ∃ m, a.open? l = .ok m ∧ m.contents? = .ok bytes := by
  rw [bytes?]
  cases a.open? l with
  | error e => simp
  | ok m => simp [toOption_eq_some_iff]

/-- An archive holds its members if each of them can be read. -/
theorem holds_lookup {entries : List (String × ByteArray)}
    (h : a.listings.map (fun l => (l.name, a.bytes? l)) = entries.map fun e => (e.1, some e.2)) :
    a.Holds fun name => entries.lookup name := by
  have hlookup : ∀ name, (a.listing? name).map a.bytes? = (entries.lookup name).map some := by
    intro name
    rw [listing?]
    generalize a.listings = listings at h
    induction listings generalizing entries with
    | nil =>
      obtain rfl : entries = [] := List.map_eq_nil_iff.mp h.symm
      rfl
    | cons l rest ih =>
      cases entries with
      | nil => cases h
      | cons e others =>
        rw [List.map_cons, List.map_cons] at h
        obtain ⟨hhead, htail⟩ := List.cons.inj h
        obtain ⟨hname, hbytes⟩ := Prod.mk.inj hhead
        rw [List.find?_cons, List.lookup_cons, hname, Bool.beq_comm]
        cases name == e.1 with
        | true => simp [hbytes]
        | false => exact ih htail
  constructor
  · intro name
    have hname := congrArg Option.isSome (hlookup name)
    rw [Option.isSome_map, Option.isSome_map] at hname
    rw [hname, ← Option.isSome_iff_ne_none]
  · intro name bytes l hbytes hl
    have hname := hlookup name
    rw [hl, hbytes] at hname
    exact bytes?_eq_some_iff.mp (Option.some.inj hname)

end Archive

namespace Package

variable {disk : Disk} {directory : String} {home : Location} {a : Archive} {bytes : ByteArray}
  {files : String → Option ByteArray}

theorem readMember_eq (h : a.Holds files) : readMember a = fetchFrom files := by
  funext name
  rw [readMember, fetchFrom]
  cases hl : a.listing? name with
  | none =>
    have hnone : files name = none := by
      by_contra hne
      have hlisted := (h.listed name).mpr hne
      rw [hl] at hlisted
      cases hlisted
    rw [hnone]
  | some l =>
    obtain ⟨bytes, hbytes⟩ :=
      Option.ne_none_iff_exists'.mp ((h.listed name).mp (by rw [hl]; rfl))
    obtain ⟨m, hopen, hcontents⟩ := h.readable name bytes l hbytes hl
    simp only [hbytes, hopen, hcontents]
    rfl

/-- An archive is loaded as the files that it holds. -/
theorem ofArchive_eq (hbytes : Archive.ofBytes? bytes = .ok a) (h : a.Holds files) :
    ofArchive bytes = ofFiles files := by
  have hhas : a.names.contains = fun name => (files name).isSome := by
    funext name
    rw [Archive.contains_names, Bool.eq_iff_iff, h.listed, Option.isSome_iff_ne_none]
  unfold ofArchive
  rw [hbytes]
  show load a.names.contains .ofFileName (readMember a) = load _ _ _
  rw [hhas, readMember_eq h]

/-- In a tree only the files below a directory matter if all names have ordinary components. -/
theorem ofDirectory_eq_of_isTree (htree : disk.IsTree) (hhome : disk.IsDirectoryAt directory home)
    (hreach : disk.InReach directory home)
    (hnames : ∀ definition t, Defines (disk.fileBelow? home) definition t →
      ∀ d ∈ definition.documents, Path.IsOrdinary d.name) :
    ofDirectory disk directory = ofFiles (disk.fileBelow? home) := by
  have hdefinitions : ∀ n ∈ definitionNames, Path.IsFileName n := by decide
  rw [ofDirectory_eq]
  refine (ofFiles_congr (fun n hn => ?_) fun definition t hdefines d hd => ?_).symm
  · exact (Disk.bytes?_join htree hhome hreach (.of_isFileName (hdefinitions n hn))).symm
  · have hsame : t.documents.map (·.name) = definition.documents.map (·.name) :=
      map_eq_of_forall₂ (fun _ _ hx => hx.1)
        (Definition.describes_of_ofDefinition hdefines.makes).documents
    have hmem : d.name ∈ definition.documents.map (·.name) := hsame ▸ List.mem_map_of_mem hd
    obtain ⟨e, he, hname⟩ := List.mem_map.mp hmem
    have hordinary : Path.IsOrdinary d.name := hname ▸ hnames definition t hdefines e he
    exact (Disk.bytes?_join htree hhome hreach hordinary).symm

theorem Loads.isReady {t : Template} (h : Loads files (.ok t)) : t.isReady := by
  cases h with
  | complete defines found =>
    rw [Template.isReady, List.all_map, List.all_eq_true]
    exact fun d hd => Option.isSome_iff_ne_none.mpr (found d hd)

/--
If an archive holds the files of a tree below a directory, and the names of the documents have
ordinary components, then loading either of them leads to the same result. It is what the files
say: a missing definition, the fault of the definition that is found first, the first document
without a file, or a template with the bytes of the files as payloads, all of them loaded.
-/
theorem ofDirectory_agrees_ofArchive (htree : disk.IsTree)
    (hhome : disk.IsDirectoryAt directory home) (hreach : disk.InReach directory home)
    (hbytes : Archive.ofBytes? bytes = .ok a) (hholds : a.Holds (disk.fileBelow? home))
    (hnames : ∀ definition t, Defines (disk.fileBelow? home) definition t →
      ∀ d ∈ definition.documents, Path.IsOrdinary d.name) :
    ∃ result, Loads (disk.fileBelow? home) result ∧ ofDirectory disk directory = result ∧
      ofArchive bytes = result ∧ ∀ t, result = .ok t → t.isReady := by
  have hloads := loads_ofFiles (disk.fileBelow? home)
  refine ⟨ofFiles (disk.fileBelow? home), hloads,
    ofDirectory_eq_of_isTree htree hhome hreach hnames, ofArchive_eq hbytes hholds, ?_⟩
  intro t ht
  rw [ht] at hloads
  exact hloads.isReady

/-! ## A letter in a directory of its own -/

/-- A definition with a single document, its parts in the order of declaration. -/
def mailText : String := "[\"mail\",[[\"to\"]],[],[[\"letters/offer\",\"to\"]]]"

/-- The files of the package. -/
def mailFiles : List (String × ByteArray) :=
  [("template.json", mailText.toUTF8), ("letters/offer", "offer".toUTF8)]

/-- Where the package is. -/
def mailHome : Location := ["work", "package"]

/-- A disk with the files of the package. -/
def mailDisk : Disk :=
  ((((Disk.blank ["work"]).put (["work"] ++ ["package"]) .directory).put
    (mailHome ++ ["template.json"]) (.file mailText.toUTF8)).put
    (mailHome ++ ["letters"]) .directory).put
    (mailHome ++ ["letters"] ++ ["offer"]) (.file "offer".toUTF8)

/-- An archive with the files of the package. -/
def mailArchive : ByteArray :=
  Archive.ofEntries (mailFiles.map fun file => ⟨file.1, .stored, file.2⟩)

theorem mailDisk_isTree : mailDisk.IsTree := by
  have hfits : ∀ name ∈ ["work", "package", "template.json", "letters", "offer"],
      Disk.Fits name := by
    have hall : ∀ name ∈ ["work", "package", "template.json", "letters", "offer"],
        name.utf8ByteSize ≤ Disk.maxNameLength ∧ '\x00' ∉ name.toList := by decide
    exact fun name hname => ⟨(hall name hname).1, (hall name hname).2⟩
  have hfree : ∀ (d : Disk) place, d.node? place = none → d.node? place ≠ some .directory := by
    intro d place hnone
    simp [hnone]
  have hroot : (Disk.blank ["work"]).IsTree := by
    refine .blank fun name hname => ?_
    rw [List.mem_singleton.mp hname]
    exact hfits "work" (by simp)
  have hhome : ((Disk.blank ["work"]).put (["work"] ++ ["package"]) .directory).IsTree :=
    hroot.put rfl (hfits "package" (by simp)) (hfree _ _ rfl) _
  have htemplate : (((Disk.blank ["work"]).put (["work"] ++ ["package"]) .directory).put
      (mailHome ++ ["template.json"]) (.file mailText.toUTF8)).IsTree :=
    hhome.put rfl (hfits "template.json" (by simp)) (hfree _ _ rfl) _
  exact (htemplate.put rfl (hfits "letters" (by simp)) (hfree _ _ rfl) _).put rfl
    (hfits "offer" (by simp)) (hfree _ _ rfl) _

theorem lookup_map_append (home : Location) (nodes : List (Location × Node)) (place : Location) :
    (nodes.map fun e => (home ++ e.1, e.2)).lookup (home ++ place) = nodes.lookup place := by
  induction nodes with
  | nil => rfl
  | cons e rest ih =>
    have hkey : (home ++ place == home ++ e.1) = (place == e.1) := by
      rw [Bool.eq_iff_iff, beq_iff_eq, beq_iff_eq, List.append_cancel_left_eq]
    rw [List.map_cons, List.lookup_cons, List.lookup_cons, hkey, ih]

theorem node?_mailDisk (components : List String) :
    mailDisk.node? (mailHome ++ components) =
      [(["letters", "offer"], .file "offer".toUTF8), (["letters"], .directory),
        (["template.json"], .file mailText.toUTF8), ([], .directory)].lookup components := by
  rw [← lookup_map_append mailHome]
  rfl

theorem lookup_mailFiles {name : String} (hfirst : name ≠ "template.json")
    (hsecond : name ≠ "letters/offer") : mailFiles.lookup name = none := by
  simp [mailFiles, List.lookup_cons, beq_eq_false_iff_ne.mpr hfirst,
    beq_eq_false_iff_ne.mpr hsecond]

theorem fileBelow?_mailDisk (name : String) :
    mailDisk.fileBelow? mailHome name = mailFiles.lookup name := by
  have hparts : ∀ name ∈ ["template.json", "letters", "offer"], '/' ∉ name.toList := by decide
  have htemplate : Path.components "template.json" = ["template.json"] :=
    Path.components_of_not_slash (hparts _ (by simp))
  have hoffer : Path.components "letters/offer" = ["letters", "offer"] := by
    have hjoined := Path.components_append_slash "letters" "offer"
    rwa [Path.components_of_not_slash (hparts "letters" (by simp)),
      Path.components_of_not_slash (hparts "offer" (by simp))] at hjoined
  have hordinary : Path.IsOrdinary "template.json" ∧ Path.IsOrdinary "letters/offer" := by
    rw [Path.IsOrdinary, Path.IsOrdinary, htemplate, hoffer]
    decide
  by_cases hfirst : name = "template.json"
  · rw [hfirst, Disk.fileBelow?, if_pos hordinary.1, htemplate, node?_mailDisk]
    rfl
  by_cases hsecond : name = "letters/offer"
  · rw [hsecond, Disk.fileBelow?, if_pos hordinary.2, hoffer, node?_mailDisk]
    rfl
  rw [lookup_mailFiles hfirst hsecond, Option.eq_none_iff_forall_ne_some]
  intro bytes hfile
  obtain ⟨-, hnode⟩ := Disk.fileBelow?_eq_some_iff.mp hfile
  have hfirst' : Path.components name ≠ ["template.json"] :=
    fun heq => hfirst (Path.components_injective (heq.trans htemplate.symm))
  have hsecond' : Path.components name ≠ ["letters", "offer"] :=
    fun heq => hsecond (Path.components_injective (heq.trans hoffer.symm))
  rw [node?_mailDisk] at hnode
  simp only [List.lookup_cons, List.lookup_nil, beq_eq_false_iff_ne.mpr hfirst',
    beq_eq_false_iff_ne.mpr hsecond'] at hnode
  -- only directories are left
  split at hnode
  · cases hnode
  · split at hnode <;> cases hnode

theorem mailArchive_holds : ∃ a, Archive.ofBytes? mailArchive = .ok a ∧
    a.Holds (mailDisk.fileBelow? mailHome) := by
  have hread : (Archive.ofBytes? mailArchive).toOption.map
      (fun a => a.listings.map fun l => (l.name, a.bytes? l)) =
        some (mailFiles.map fun e => (e.1, some e.2)) := by decide +kernel
  obtain ⟨a, ha, hlistings⟩ := Option.map_eq_some_iff.mp hread
  refine ⟨a, toOption_eq_some_iff.mp ha, ?_⟩
  rw [funext fileBelow?_mailDisk]
  exact Archive.holds_lookup hlistings

theorem mailDisk_names : ∀ definition t, Defines (mailDisk.fileBelow? mailHome) definition t →
    ∀ d ∈ definition.documents, Path.IsOrdinary d.name := by
  intro definition t h d hd
  obtain ⟨name, bytes, hdeclares, hreads⟩ := h.reads
  have hmail : Declares (mailDisk.fileBelow? mailHome) "template.json" mailText.toUTF8 := by
    rw [funext fileBelow?_mailDisk]
    exact ⟨by decide +kernel, by decide +kernel⟩
  obtain ⟨rfl, rfl⟩ := hdeclares.unique hmail
  have hdocuments : (Definition.ofText (.ofFileName "template.json") mailText.toUTF8).toOption.map
      (fun d => d.documents.map (·.name)) = some ["letters/offer"] := by decide +kernel
  rw [hreads] at hdocuments
  have hnames : definition.documents.map (·.name) = ["letters/offer"] :=
    Option.some.inj hdocuments
  have hname : d.name = "letters/offer" := by
    have hmem : d.name ∈ definition.documents.map (·.name) := List.mem_map_of_mem hd
    rwa [hnames, List.mem_singleton] at hmem
  rw [hname]
  decide +kernel

theorem mailDisk_isDirectoryAt : mailDisk.IsDirectoryAt "package" mailHome :=
  Disk.isDirectoryAt_of_isFileName (by decide) ⟨by decide, by decide⟩ rfl rfl

theorem mail_agrees : ∃ t, ofDirectory mailDisk "package" = .ok t ∧
    ofArchive mailArchive = .ok t ∧ t.isReady := by
  obtain ⟨a, ha, hholds⟩ := mailArchive_holds
  have hreach : mailDisk.InReach "package" mailHome := by
    intro name hname
    rw [fileBelow?_mailDisk] at hname
    by_cases hfirst : name = "template.json"
    · rw [hfirst]
      decide +kernel
    by_cases hsecond : name = "letters/offer"
    · rw [hsecond]
      decide +kernel
    rw [lookup_mailFiles hfirst hsecond] at hname
    cases hname
  obtain ⟨result, -, hdirectory, harchive, hready⟩ := ofDirectory_agrees_ofArchive mailDisk_isTree
    mailDisk_isDirectoryAt hreach ha hholds mailDisk_names
  have hsome : (ofDirectory mailDisk "package").toOption.isSome := by decide +kernel
  obtain ⟨t, ht⟩ := Option.isSome_iff_exists.mp hsome
  rw [toOption_eq_some_iff] at ht
  have hresult : result = .ok t := hdirectory.symm.trans ht
  exact ⟨t, ht, harchive.trans hresult, hready t hresult⟩

/-! ## Detours -/

/-- The directory of the package with some detours behind it. -/
def detour : Nat → String
  | 0 => "package"
  | n + 1 => detour n ++ "/" ++ "."

theorem utf8ByteSize_detour (n : Nat) : (detour n).utf8ByteSize = 7 + 2 * n := by
  induction n with
  | zero => decide
  | succ n ih =>
    have hend : "/".utf8ByteSize = 1 ∧ ".".utf8ByteSize = 1 := by decide
    rw [detour, String.utf8ByteSize_append, String.utf8ByteSize_append, ih, hend.1, hend.2]
    omega

theorem detour_ne_empty (n : Nat) : detour n ≠ "" := by
  intro hempty
  have hsize := utf8ByteSize_detour n
  rw [hempty, String.utf8ByteSize_empty] at hsize
  omega

theorem follow_detour (n : Nat) :
    mailDisk.follow ["work"] (Path.components (detour n)) = .ok mailHome := by
  induction n with
  | zero =>
    rw [detour, Path.components_of_not_slash (by decide)]
    rfl
  | succ n ih =>
    have hdot : Path.components "." = ["."] := Path.components_of_not_slash (by decide)
    rw [detour, Path.components_append_slash, hdot, Disk.follow_append, ih]
    rfl

/-- As long as a detour is a path, it leads to the package. -/
theorem detour_isDirectoryAt {n : Nat} (h : 7 + 2 * n ≤ Disk.maxPathLength) :
    mailDisk.IsDirectoryAt (detour n) mailHome := by
  have hcharacters : '\x00' ∉ (detour n).toList ∧ Path.isAbsolute (detour n) = false := by
    clear h
    induction n with
    | zero => decide
    | succ n ih =>
      refine ⟨by simpa [detour, String.toList_append] using ih.1, ?_⟩
      rw [detour, String.append_assoc, Path.isAbsolute_append _ (detour_ne_empty n), ih.2]
  have horigin : mailDisk.origin (detour n) = .ok ["work"] := by
    rw [Disk.origin_eq_ok_iff, Disk.start, hcharacters.2]
    have hlength : (detour n).utf8ByteSize ≤ Disk.maxPathLength := by rwa [utf8ByteSize_detour]
    exact ⟨⟨detour_ne_empty n, hcharacters.1, hlength⟩, rfl⟩
  refine ⟨rfl, ?_⟩
  rw [if_neg (detour_ne_empty n), Disk.find, horigin]
  exact follow_detour n

theorem detour_disagrees :
    mailDisk.IsTree ∧ mailDisk.IsDirectoryAt (detour 2040) mailHome ∧
      (∃ a, Archive.ofBytes? mailArchive = .ok a ∧ a.Holds (mailDisk.fileBelow? mailHome)) ∧
      (∀ definition t, Defines (mailDisk.fileBelow? mailHome) definition t →
        ∀ d ∈ definition.documents, Path.IsOrdinary d.name) ∧
      ofDirectory mailDisk (detour 2040) = .error .missingDefinition ∧
      ∃ t, ofArchive mailArchive = .ok t := by
  have hnothing : ∀ n ∈ definitionNames, filesOf mailDisk (detour 2040) n = none := by
    intro n hn
    refine Disk.bytes?_of_length ?_
    have hname : 12 ≤ n.utf8ByteSize ∧ Path.isAbsolute n = false := by
      revert n
      decide +kernel
    have hjoin : (detour 2040).utf8ByteSize + n.utf8ByteSize ≤ _ := Path.length_le_join hname.2
    rw [utf8ByteSize_detour] at hjoin
    have hlimit : Disk.maxPathLength = 4095 := rfl
    omega
  refine ⟨mailDisk_isTree, detour_isDirectoryAt (by decide), mailArchive_holds, mailDisk_names,
    ?_, ?_⟩
  · rw [ofDirectory_eq, ofFiles_of_forall_none hnothing]
  · obtain ⟨a, ha, hholds⟩ := mailArchive_holds
    have hsome : (ofFiles (mailDisk.fileBelow? mailHome)).toOption.isSome := by
      rw [funext fileBelow?_mailDisk]
      decide +kernel
    obtain ⟨t, ht⟩ := Option.isSome_iff_exists.mp hsome
    exact ⟨t, (ofArchive_eq ha hholds).trans (toOption_eq_some_iff.mp ht)⟩

end Package

end Paperwork
