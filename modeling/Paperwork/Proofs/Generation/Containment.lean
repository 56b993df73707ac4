import Paperwork.Proofs.Generation.Delivery

/-!
# Files stay below the directory

The file of a document is named after the last component of a text, whatever the text has in front
of it or behind it (`Document.fileName_eq_ok_iff`). Such a name never leads out of a directory. So
all that a run changes are files right below its directory (`generate_stays_below`).
-/

namespace Paperwork

open Disk

namespace Document

variable {fields : Fields} {d : Document} {s : String}

/-- A text names the file by its last component, unless this one leads up. -/
theorem fileName_eq_ok_iff (h : fields.get? d.outFile = some (.text s)) {name : String} :
    d.fileName fields = .ok name ↔
      ∃ base, name = base ++ ".docx" ∧ Path.IsLast s base ∧ Path.IsFileName base := by
  have hbase : ∀ base, Path.IsLast s base ∧ Path.IsFileName base ↔ Path.fileName? s = some base :=
    fun base => (and_congr_right Path.IsLast.isFileName_iff).trans Path.fileName?_eq_some_iff.symm
  simp only [hbase]
  rw [fileName_of_text h]
  cases Path.fileName? s with
  | none => simp
  | some base => simp [eq_comm]

/-- A text names no file if it has no component, or if its last one leads up. -/
theorem fileName_eq_error_iff (h : fields.get? d.outFile = some (.text s)) {fault : NameFault} :
    d.fileName fields = .error fault ↔
      fault = .empty ∧ (Path.IsTrailing ('/' :: s.toList) ∨ Path.IsLast s "..") := by
  rw [← Path.fileName?_eq_none_iff, fileName_of_text h]
  cases Path.fileName? s with
  | none => simp [eq_comm]
  | some base => simp

/-- Directories in front of the last component make no difference to the name of the file. -/
theorem fileName_append_slash {fields' : Fields} {front base : String}
    (h : fields.get? d.outFile = some (.text s))
    (h' : fields'.get? d.outFile = some (.text (front ++ "/" ++ s))) (hlast : Path.IsLast s base) :
    d.fileName fields' = d.fileName fields := by
  rw [fileName_of_text h, fileName_of_text h', Path.fileName?_append_slash front hlast]

end Document

variable {renderer : Renderer} {fields : Fields} {directory : String} {disk : Disk} {d : Document}

/-- A place right below a directory that takes the file of a document. -/
structure Document.IsPlace (fields : Fields) (directory : String) (disk : Disk) (d : Document)
    (home : Location) (base : String) (place : Location) : Prop where
  fileName_eq : d.fileName fields = .ok (base ++ ".docx")
  isFileName : Path.IsFileName base
  isDirectoryAt : disk.IsDirectoryAt directory home
  place_eq : place = home ++ [base ++ ".docx"]
  not_directory : disk.node? place ≠ some .directory

/-- A document delivers its file to a place right below the directory. -/
theorem Document.exists_isPlace_of_delivery? {file : Location × ByteArray}
    (h : d.delivery? renderer fields directory disk = some file) :
    ∃ home base, d.IsPlace fields directory disk home base file.1 := by
  obtain ⟨filename, hdelivers, -⟩ := delivers_of_delivery? h
  obtain ⟨base, hbase, rfl⟩ := exists_base_of_fileName hdelivers.fileName_eq
  obtain ⟨home, -, hhome, hplace, hfree⟩ :=
    leads_of_target (isFileName_append_docx hbase) hdelivers.target_eq
  exact ⟨home, base, hdelivers.fileName_eq, hbase, hhome, hplace, hfree⟩

/--
The name of a file is the last component of a text with an extension. The text may have any
directories in front of the component, and slashes and single dots behind it; there is no name if
there is no such component or if it leads up. So a run changes a disk only where a document has its
place, right below the directory, and it leaves a file there.
-/
theorem generate_stays_below :
    (∀ (d : Document) (fields : Fields) (s : String),
      fields.get? d.outFile = some (.text s) →
        (∀ name, d.fileName fields = .ok name ↔
          ∃ base, name = base ++ ".docx" ∧ Path.IsLast s base ∧ Path.IsFileName base) ∧
        (∀ fault, d.fileName fields = .error fault ↔
          fault = .empty ∧ (Path.IsTrailing ('/' :: s.toList) ∨ Path.IsLast s "..")) ∧
        ∀ (front base : String) (fields' : Fields), Path.IsLast s base →
          fields'.get? d.outFile = some (.text (front ++ "/" ++ s)) →
            d.fileName fields' = d.fileName fields) ∧
      ∀ (t : Template) (renderer : Renderer) (fields : Fields) (directory : String)
        (disk after : Disk) (r : GenerationReport),
        t.generate renderer fields directory disk = .ok (r, after) →
          after.workDir = disk.workDir ∧
          ∀ place, after.node? place ≠ disk.node? place →
            ∃ d ∈ t.documents, ∃ home base bytes,
              d.IsPlace fields directory disk home base place ∧
              after.node? place = some (.file bytes) := by
  constructor
  · intro d fields s htext
    exact ⟨fun name => Document.fileName_eq_ok_iff htext,
      fun fault => Document.fileName_eq_error_iff htext,
      fun front base fields' hlast htext' => Document.fileName_append_slash htext htext' hlast⟩
  · intro t renderer fields directory disk after r h
    obtain ⟨due, hdue, -, rfl⟩ := Template.generate_eq_ok_iff.mp h
    have hfree := @areFree_deliveries renderer fields directory disk due
    refine ⟨hfree.sameDirectories.workDir_eq, fun place hchanged => ?_⟩
    obtain ⟨bytes, hfile, hnode⟩ := exists_file_of_node?_putFiles_ne hfree hchanged
    obtain ⟨d, hd, hdelivery⟩ := mem_deliveries.mp hfile
    obtain ⟨home, base, hplace⟩ := Document.exists_isPlace_of_delivery? hdelivery
    exact ⟨d, mem_of_dueDocuments hdue hd, home, base, bytes, hplace, hnode⟩

/-- The file of the bill about a tower is named after the tower, and the run leaves only letters. -/
theorem tower_stays_below :
    letters.documents[1].fileName towerFields = .ok "Tower.docx" ∧
      letters.generate copying towerFields "out" lettersDisk = .ok (towerReport, towerDisk) ∧
      ∀ place, towerDisk.node? place ≠ lettersDisk.node? place →
        ∃ base, Path.IsFileName base ∧ place = ["out", base ++ ".docx"] := by
  obtain ⟨hnames, hruns⟩ := generate_stays_below
  have hlast : Path.IsLast "../2026/Tower/." "Tower" :=
    ⟨⟨"../2026/".toList, "/.".toList, rfl, .inr ⟨"../2026".toList, rfl⟩, .dot .nil⟩,
      by decide, by decide⟩
  have hname : Path.IsFileName "Tower" := ⟨by decide, by decide, by decide⟩
  have hout : lettersDisk.find "out" = .ok ["out"] := by with_unfolding_all rfl
  refine ⟨?_, generate_tower, fun place hchanged => ?_⟩
  · exact ((hnames letters.documents[1] towerFields "../2026/Tower/." rfl).1 "Tower.docx").mpr
      ⟨"Tower", rfl, hlast, hname⟩
  · obtain ⟨-, hplaces⟩ := hruns letters copying towerFields "out" lettersDisk towerDisk
      towerReport generate_tower
    obtain ⟨d, -, home, base, bytes, hplace, -⟩ := hplaces place hchanged
    have hhome := hplace.isDirectoryAt.2
    rw [if_neg (by decide), hout] at hhome
    cases hhome
    exact ⟨base, hplace.isFileName, hplace.place_eq⟩

end Paperwork
