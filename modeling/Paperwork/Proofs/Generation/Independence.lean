import Paperwork.Proofs.Generation.Delivery

/-!
# Documents on their own

A run of a template does for each document what a run for this document alone does on the same disk.
The reports of these runs, put together in the order of declaration, are the report of the whole
run. Their files, put on the disk in that order, give the disk after it; if the names of the files
differ, the order does not matter (`generate_each_alone`).
-/

namespace Paperwork

open Disk

/-- The share of one document in a run: what became of it if it was due, and the file it left. -/
structure Share where
  outcomes : List Outcome
  files : List (Location × ByteArray)

namespace Share

/-- The report of a share. -/
def report (s : Share) : GenerationReport := .ofOutcomes s.outcomes

end Share

/-- Files of due documents have different names. -/
def HaveDistinctNames (fields : Fields) (ds : List Document) : Prop :=
  (ds.filter (·.isEmitted fields)).Pairwise fun d e =>
    ∀ name, d.fileName fields = .ok name → e.fileName fields ≠ .ok name

variable {renderer : Renderer} {fields : Fields} {directory : String} {disk : Disk}
  {ds : List Document}

/-- The share of a document in a run that starts from a disk. -/
def Document.share (renderer : Renderer) (fields : Fields) (directory : String) (disk : Disk)
    (d : Document) : Share :=
  if d.isEmitted fields then
    ⟨[(d.generate renderer fields directory disk).1],
      (d.delivery? renderer fields directory disk).toList⟩
  else ⟨[], []⟩

theorem outcomes_filter_eq :
    outcomes renderer fields directory disk (ds.filter (·.isEmitted fields)) =
      (ds.map (·.share renderer fields directory disk)).flatMap (·.outcomes) := by
  induction ds with
  | nil => rfl
  | cons d rest ih =>
    rw [List.map_cons, List.flatMap_cons, ← ih, Document.share]
    cases hemitted : d.isEmitted fields <;> simp [outcomes, hemitted]

theorem deliveries_filter_eq :
    deliveries renderer fields directory disk (ds.filter (·.isEmitted fields)) =
      (ds.map (·.share renderer fields directory disk)).flatMap (·.files) := by
  induction ds with
  | nil => rfl
  | cons d rest ih =>
    rw [List.map_cons, List.flatMap_cons, ← ih, Document.share]
    cases hemitted : d.isEmitted fields with
    | false => simp [hemitted]
    | true => rw [List.filter_cons_of_pos hemitted, deliveries_cons, if_pos rfl]

theorem outcomes_share (d : Document) :
    (d.share renderer fields directory disk).outcomes =
      outcomes renderer fields directory disk ([d].filter (·.isEmitted fields)) := by
  rw [outcomes_filter_eq, List.map_singleton, List.flatMap_singleton]

theorem files_share (d : Document) :
    (d.share renderer fields directory disk).files =
      deliveries renderer fields directory disk ([d].filter (·.isEmitted fields)) := by
  rw [deliveries_filter_eq, List.map_singleton, List.flatMap_singleton]

/-- A run for one document yields the share of the document. -/
theorem generate_alone (t : Template) {d : Document}
    (h : d.isDue fields = .ok (d.isEmitted fields)) :
    ({ t with documents := [d] } : Template).generate renderer fields directory disk =
      .ok ((d.share renderer fields directory disk).report,
        disk.putFiles (d.share renderer fields directory disk).files) := by
  refine Template.generate_eq_ok_iff.mpr ⟨[d].filter (·.isEmitted fields), ?_, ?_, ?_⟩
  · exact dueDocuments_eq_ok_iff.mpr ⟨by simpa using h, rfl⟩
  · rw [Share.report, outcomes_share]
  · rw [files_share]

/-- Files with different names are left at different places. -/
theorem nodup_deliveries (h : HaveDistinctNames fields ds) :
    ((deliveries renderer fields directory disk
      (ds.filter (·.isEmitted fields))).map Prod.fst).Nodup := by
  rw [List.Nodup, List.pairwise_map, deliveries, List.pairwise_filterMap]
  refine h.imp fun {d e} hnames file hfile file' hfile' heq => ?_
  obtain ⟨name, hname, -⟩ := Document.delivers_of_delivery? hfile
  obtain ⟨name', hname', -⟩ := Document.delivers_of_delivery? hfile'
  have htarget := hname.target_eq
  rw [heq] at htarget
  have hsame : name = name' := eq_of_target_eq
    (Document.isFileName_of_fileName hname.fileName_eq)
    (Document.isFileName_of_fileName hname'.fileName_eq) htarget hname'.target_eq
  exact hnames name hname.fileName_eq (hsame ▸ hname'.fileName_eq)

/-- A share has a file at the place of every document that it reports as generated. -/
theorem forall₂_target_share (renderer : Renderer) (fields : Fields) (directory : String)
    (disk : Disk) (d : Document) :
    List.Forall₂ (fun f file => disk.target f.path = .ok file.1)
      (d.share renderer fields directory disk).report.files
      (d.share renderer fields directory disk).files := by
  rw [Share.report, outcomes_share, files_share]
  exact forall₂_target_deliveries

theorem length_outcomes_share (renderer : Renderer) (fields : Fields) (directory : String)
    (disk : Disk) (d : Document) :
    (d.share renderer fields directory disk).outcomes.length =
      if d.isEmitted fields then 1 else 0 := by
  rw [Document.share]
  split <;> rfl

/-- The report of all outcomes lists what the reports of the shares list. -/
theorem files_ofOutcomes_flatMap (shares : List Share) :
    (GenerationReport.ofOutcomes (shares.flatMap (·.outcomes))).files =
        shares.flatMap (·.report.files) ∧
      (GenerationReport.ofOutcomes (shares.flatMap (·.outcomes))).failures =
        shares.flatMap (·.report.failures) := by
  simp only [Share.report, GenerationReport.files_ofOutcomes, GenerationReport.failures_ofOutcomes,
    List.filterMap_flatMap, and_self]

/--
Every document has its share in a run: one outcome if its condition holds and none otherwise. The
share is what the document gets in a run of its own on the same disk. The report lists the shares in
the order of declaration and counts their failures, and the disk has the files of all shares. If the
names of the files differ, the files can be put on the disk in any order.
-/
theorem generate_each_alone {t : Template} {renderer : Renderer} {fields : Fields}
    {directory : String} {disk after : Disk} {r : GenerationReport}
    (h : t.generate renderer fields directory disk = .ok (r, after)) :
    ∃ shares : List Share,
      List.Forall₂ (fun d s =>
        ({ t with documents := [d] } : Template).generate renderer fields directory disk =
            .ok (s.report, disk.putFiles s.files) ∧
          s.outcomes.length = (if d.isEmitted fields then 1 else 0) ∧
          List.Forall₂ (fun f file => disk.target f.path = .ok file.1) s.report.files s.files)
        t.documents shares ∧
      r = .ofOutcomes (shares.flatMap (·.outcomes)) ∧
      r.files = shares.flatMap (·.report.files) ∧
      r.failures = shares.flatMap (·.report.failures) ∧
      r.errorCount = r.failures.length ∧
      after = disk.putFiles (shares.flatMap (·.files)) ∧
      (HaveDistinctNames fields t.documents →
        ∀ order, order.Perm (shares.flatMap (·.files)) → Same after (disk.putFiles order)) := by
  obtain ⟨due, hdue, rfl, hafter⟩ := Template.generate_eq_ok_iff.mp h
  obtain ⟨hconditions, rfl⟩ := dueDocuments_eq_ok_iff.mp hdue
  have hfiles :
      deliveries renderer fields directory disk (t.documents.filter (·.isEmitted fields)) =
        (t.documents.map (·.share renderer fields directory disk)).flatMap (·.files) :=
    deliveries_filter_eq
  rw [outcomes_filter_eq]
  rw [hfiles] at hafter
  obtain ⟨hreported, hfailed⟩ :=
    files_ofOutcomes_flatMap (t.documents.map (·.share renderer fields directory disk))
  refine ⟨t.documents.map (·.share renderer fields directory disk), ?_, rfl, hreported, hfailed,
    GenerationReport.isCounted_ofOutcomes _, hafter, ?_⟩
  · rw [List.forall₂_map_right_iff, List.forall₂_same]
    exact fun d hd => ⟨generate_alone t (hconditions d hd), length_outcomes_share ..,
      forall₂_target_share ..⟩
  · intro hnames order horder
    rw [hafter]
    refine same_putFiles_of_perm ?_ ?_ horder
    · rw [← hfiles]
      exact areFree_deliveries
    · rw [← hfiles]
      exact nodup_deliveries hnames

theorem haveDistinctNames_tower : HaveDistinctNames towerFields letters.documents := by
  have hoffer : letters.documents[0].fileName towerFields = .ok "Acme.docx" := by
    with_unfolding_all rfl
  have hbill : letters.documents[1].fileName towerFields = .ok "Tower.docx" := by
    with_unfolding_all rfl
  have hemitted : letters.documents.filter (·.isEmitted towerFields) =
      [letters.documents[0], letters.documents[1]] := rfl
  rw [HaveDistinctNames, hemitted, List.pairwise_pair, hoffer, hbill]
  intro name hname
  rw [← hname]
  simp

/-- The letters about a tower are those of runs of their own, and the order of the files is free. -/
theorem tower_letters_alone :
    letters.generate copying towerFields "out" lettersDisk = .ok (towerReport, towerDisk) ∧
      HaveDistinctNames towerFields letters.documents ∧
      ∃ shares : List Share, shares.length = 3 ∧
        towerReport.files = shares.flatMap (·.report.files) ∧
        Same towerDisk (lettersDisk.putFiles (shares.flatMap (·.files)).reverse) := by
  obtain ⟨shares, halone, -, hfiles, -, -, -, horder⟩ := generate_each_alone generate_tower
  exact ⟨generate_tower, haveDistinctNames_tower, shares, halone.length_eq.symm, hfiles,
    horder haveDistinctNames_tower _ (List.reverse_perm _)⟩

end Paperwork
