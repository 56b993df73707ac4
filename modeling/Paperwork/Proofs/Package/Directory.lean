import Paperwork.Proofs.Disk.Reading
import Paperwork.Proofs.Package.Loading

/-!
# Packages in directories

A package in a directory is made of the files that names lead to from there (`ofDirectory_eq`). A
payload is the file at the destination of the name of its document, so it lies below the directory
unless the name leads outside, and a name that leads outside to no file makes the loading fail
(`ofDirectory_reads_destinations`). Nothing keeps a name from leading to a file outside, and then
this file is the payload (`leak_reads_outside`).
-/

namespace Paperwork

namespace Package

variable {disk : Disk} {directory name : String} {home : Location}

/-- The files that names lead to from a directory. -/
def filesOf (disk : Disk) (directory : String) (name : String) : Option ByteArray :=
  disk.bytes? (Path.join directory name)

theorem readFile_eq (disk : Disk) (directory : String) :
    readFile disk directory = fetchFrom (filesOf disk directory) := by
  funext name
  show (if disk.isFile (Path.join directory name) then _ else _) = _
  rw [Disk.isFile_eq, fetchFrom, filesOf]
  cases hbytes : disk.bytes? (Path.join directory name) with
  | none => rfl
  | some bytes =>
    show (disk.read (Path.join directory name)).mapError _ = _
    rw [Disk.read_of_bytes? hbytes]
    rfl

/-- A path below a directory has the endings of the name, as far as the name is long enough. -/
theorem endsWith_join {ending : String} (h : ending.toList.length ≤ name.toList.length) :
    endsWith (Path.join directory name) ending = endsWith name ending := by
  rw [endsWith, endsWith, Bool.eq_iff_iff, List.isSuffixOf_iff_suffix, List.isSuffixOf_iff_suffix]
  have hname : name.toList <:+ (Path.join directory name).toList := Path.suffix_join directory name
  exact ⟨fun hending => List.suffix_of_suffix_length_le hending hname h,
    fun hending => hending.trans hname⟩

/-- Where a definition is does not change its format. -/
theorem formatBelow_eq (directory : String) (h : name ∈ definitionNames) :
    formatBelow directory name = .ofFileName name := by
  have hlength : ".json".toList.length ≤ name.toList.length := by
    revert name
    decide
  rw [formatBelow, DefinitionFormat.ofFileName, DefinitionFormat.ofFileName, endsWith_join hlength]

/-- A directory is loaded as the files that names lead to from there. -/
theorem ofDirectory_eq (disk : Disk) (directory : String) :
    ofDirectory disk directory = ofFiles (filesOf disk directory) := by
  have hhas : (fun name => disk.isFile (Path.join directory name)) =
      fun name => (filesOf disk directory name).isSome := by
    funext name
    exact disk.isFile_eq _
  rw [ofDirectory, ofFiles, hhas, readFile_eq]
  exact load_congr fun name hname => formatBelow_eq directory hname

theorem loads_ofDirectory (disk : Disk) (directory : String) :
    Loads (filesOf disk directory) (ofDirectory disk directory) := by
  rw [ofDirectory_eq]
  exact loads_ofFiles _

/-- A payload is the file at the destination of the name of its document. -/
theorem payload_of_ofDirectory {t : Template} {d : Document} (h : disk.IsDirectoryAt directory home)
    (ht : ofDirectory disk directory = .ok t) (hd : d ∈ t.documents) :
    ∃ bytes, d.contents = some bytes ∧
      disk.node? (Path.destination home d.name) = some (.file bytes) := by
  have hloads := loads_ofDirectory disk directory
  rw [ht] at hloads
  cases hloads with
  | complete defines found =>
    obtain ⟨e, he, rfl⟩ := List.mem_map.mp hd
    obtain ⟨bytes, hbytes⟩ := Option.ne_none_iff_exists'.mp (found e he)
    exact ⟨bytes, hbytes, Disk.node?_destination h hbytes⟩

/-- A document without a file makes the loading fail, and the first such document is reported. -/
theorem ofDirectory_of_missing {definition : Definition} {t : Template}
    (hdefines : Defines (filesOf disk directory) definition t)
    (hmissing : ∃ d ∈ t.documents, filesOf disk directory d.name = none) :
    ∃ before d after, t.documents = before ++ d :: after ∧
      (∀ x ∈ before, filesOf disk directory x.name ≠ none) ∧
      filesOf disk directory d.name = none ∧
      ofDirectory disk directory = .error (.missingDocument d.name) := by
  rw [ofDirectory_eq]
  rcases ofFiles_cases_of_defines hdefines with ⟨hfound, -⟩ | hfails
  · obtain ⟨d, hd, hnone⟩ := hmissing
    exact absurd hnone (hfound d hd)
  · exact hfails

/--
The payload of every document that is loaded from a directory is the file at the destination of its
name, which is located below the directory unless the name leads outside. If some name leads
outside to no file, then loading fails and reports the first document that has no file. A relative
name that never leads up does not lead outside.
-/
theorem ofDirectory_reads_destinations (h : disk.IsDirectoryAt directory home) :
    (∀ t, ofDirectory disk directory = .ok t → ∀ d ∈ t.documents, ∃ bytes,
      d.contents = some bytes ∧
      disk.node? (Path.destination home d.name) = some (.file bytes) ∧
      ((∃ rest, rest ≠ [] ∧ Path.destination home d.name = home ++ rest) ∨
        Path.LeadsOutside home d.name)) ∧
    (∀ definition t, Defines (filesOf disk directory) definition t →
      (∃ d ∈ t.documents, Path.LeadsOutside home d.name ∧
        ∀ bytes, disk.node? (Path.destination home d.name) ≠ some (.file bytes)) →
      ∃ before d after, t.documents = before ++ d :: after ∧
        (∀ x ∈ before, filesOf disk directory x.name ≠ none) ∧
        filesOf disk directory d.name = none ∧
        ofDirectory disk directory = .error (.missingDocument d.name)) ∧
    ∀ name, Path.isAbsolute name = false → ".." ∉ Path.components name →
      ¬ Path.LeadsOutside home name := by
  refine ⟨fun t ht d hd => ?_, fun definition t hdefines hmissing => ?_, fun name => ?_⟩
  · obtain ⟨bytes, hcontents, hnode⟩ := payload_of_ofDirectory h ht hd
    refine ⟨bytes, hcontents, hnode, ?_⟩
    by_cases hname : Path.LeadsOutside home d.name
    · exact .inr hname
    · exact .inl (Disk.exists_rest_of_not_leadsOutside h hnode hname)
  · obtain ⟨d, hd, -, hnode⟩ := hmissing
    refine ofDirectory_of_missing hdefines ⟨d, hd, ?_⟩
    by_contra hne
    obtain ⟨bytes, hbytes⟩ := Option.ne_none_iff_exists'.mp hne
    exact hnode bytes (Disk.node?_destination h hbytes)
  · exact Path.not_leadsOutside

/-! ## A name that leads outside -/

/-- A definition with one document in a directory of its own and one of the given name. -/
def leakText (document : String) : String :=
  "\x7b\"name\":\"leak\",\"fields\":[\x7b\"name\":\"client\"\x7d],\"documents\":[" ++
  "\x7b\"name\":\"letters/offer.docx\",\"outFile\":\"client\"\x7d," ++
  "\x7b\"name\":\"" ++ document ++ "\",\"outFile\":\"client\"\x7d]\x7d"

/-- A disk with a package and a file beside it. -/
def leakDisk (document : String) : Disk where
  nodes := [
    (["work", "package"], .directory),
    (["work", "package", "template.json"], .file (leakText document).toUTF8),
    (["work", "package", "bill.docx"], .file "bill".toUTF8),
    (["work", "package", "letters"], .directory),
    (["work", "package", "letters", "offer.docx"], .file "offer".toUTF8),
    (["work", "secret.docx"], .file "secret".toUTF8)]
  workDir := ["work"]

/-- Where the package is. -/
def leakHome : Location := ["work", "package"]

theorem leakDisk_isDirectoryAt (document : String) :
    (leakDisk document).IsDirectoryAt "package" leakHome :=
  Disk.isDirectoryAt_of_isFileName (by decide) ⟨by decide, by decide⟩ rfl rfl

theorem leak_reads_destinations :
    (∃ t, ofDirectory (leakDisk "letters/./../bill.docx") "package" = .ok t ∧
      t.documents.map (·.contents) = [some "offer".toUTF8, some "bill".toUTF8] ∧
      ∀ d ∈ t.documents, ∃ rest, rest ≠ [] ∧ Path.destination leakHome d.name = leakHome ++ rest) ∧
    ∃ n, ofDirectory (leakDisk "../missing.docx") "package" = .error (.missingDocument n) := by
  constructor
  · obtain ⟨hreads, -⟩ :=
      ofDirectory_reads_destinations (leakDisk_isDirectoryAt "letters/./../bill.docx")
    have hloaded : (ofDirectory (leakDisk "letters/./../bill.docx") "package").toOption.map
        (fun t => (t.documents.map (·.contents), t.documents.map (·.name))) =
          some ([some "offer".toUTF8, some "bill".toUTF8],
            ["letters/offer.docx", "letters/./../bill.docx"]) := by decide +kernel
    obtain ⟨t, ht, hdocuments⟩ := Option.map_eq_some_iff.mp hloaded
    obtain ⟨hcontents, hnames⟩ := Prod.mk.inj hdocuments
    rw [toOption_eq_some_iff] at ht
    refine ⟨t, ht, hcontents, fun d hd => ?_⟩
    have hinside : ∀ n ∈ t.documents.map (·.name), leakHome <+: Path.destination leakHome n := by
      rw [hnames]
      decide +kernel
    obtain ⟨bytes, -, -, hbelow | houtside⟩ := hreads t ht d hd
    · exact hbelow
    · exact absurd (hinside d.name (List.mem_map_of_mem hd)) houtside
  · obtain ⟨-, hmissing, -⟩ :=
      ofDirectory_reads_destinations (leakDisk_isDirectoryAt "../missing.docx")
    have hread : (readTemplate (.ofFileName "template.json")
        (leakText "../missing.docx").toUTF8).toOption.map (fun t => t.documents.map (·.name)) =
          some ["letters/offer.docx", "../missing.docx"] := by decide +kernel
    obtain ⟨t, ht, hnames⟩ := Option.map_eq_some_iff.mp hread
    obtain ⟨definition, hdefines⟩ : ∃ definition,
        Defines (filesOf (leakDisk "../missing.docx") "package") definition t :=
      exists_defines ⟨by decide +kernel, by decide +kernel⟩ (toOption_eq_some_iff.mp ht)
    obtain ⟨d, hd, hname⟩ : ∃ d ∈ t.documents, d.name = "../missing.docx" :=
      List.mem_map.mp (by simp [hnames])
    have hnothing : (leakDisk "../missing.docx").node?
        (Path.destination leakHome "../missing.docx") = none :=
      Option.isNone_iff_eq_none.mp (by decide +kernel)
    have houtside : Path.LeadsOutside leakHome "../missing.docx" := by
      rw [Path.LeadsOutside]
      decide +kernel
    obtain ⟨-, first, -, -, -, -, hfails⟩ :=
      hmissing definition t hdefines ⟨d, hd, by rwa [hname], by simp [hname, hnothing]⟩
    exact ⟨first.name, hfails⟩

theorem leak_reads_outside :
    (leakDisk "../secret.docx").IsDirectoryAt "package" leakHome ∧
      Path.LeadsOutside leakHome "../secret.docx" ∧
      (ofDirectory (leakDisk "../secret.docx") "package").toOption.map
          (fun t => t.documents.map fun d => (d.name, d.contents)) =
        some [("letters/offer.docx", some "offer".toUTF8),
          ("../secret.docx", some "secret".toUTF8)] ∧
      ∀ file ∈ (leakDisk "../secret.docx").filesBelow leakHome, file.2 ≠ "secret".toUTF8 := by
  refine ⟨leakDisk_isDirectoryAt _, ?_, by decide +kernel, by decide +kernel⟩
  rw [Path.LeadsOutside]
  decide +kernel

end Package

end Paperwork
