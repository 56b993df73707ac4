import Paperwork.Batch
import Paperwork.Proofs.Generation.Delivery
import Paperwork.Proofs.Sequence

/-!
# Files of several runs

Runs into one directory follow each other (`Runs`), as those for the rows of a batch do
(`runs_treat`). Nothing keeps a document from having the file name of an earlier one, and then it
takes the place of the earlier file (`acme_bill_replaces_offer`). So a file that is reported stays
what it is until the same path is reported again (`reported_last_is_read`).
-/

namespace Paperwork

open Disk

variable {renderer : Renderer} {fields : Fields} {directory : String} {disk next after final : Disk}
  {place : Location} {name : String} {ds : List Document} {t : Template} {r : GenerationReport}

/-! ## One run -/

/-- Where a path leads to that no document is reported at, no document leaves a file. -/
theorem not_mem_deliveries (hname : Path.IsFileName name)
    (htarget : disk.target (Path.join directory name) = .ok place)
    (hpath : ∀ f ∈ (GenerationReport.ofOutcomes
      (outcomes renderer fields directory disk ds)).files, f.path ≠ Path.join directory name) :
    place ∉ (deliveries renderer fields directory disk ds).map Prod.fst := by
  intro hmem
  obtain ⟨⟨_, bytes⟩, hfile, rfl⟩ := List.mem_map.mp hmem
  obtain ⟨d, hd, hdelivery⟩ := mem_deliveries.mp hfile
  obtain ⟨filename, hdelivers, hgenerated⟩ := Document.delivers_of_delivery? hdelivery
  have hsame : filename = name :=
    eq_of_target_eq (Document.isFileName_of_fileName hdelivers.fileName_eq) hname
      hdelivers.target_eq htarget
  refine hpath ⟨Path.join directory filename, filename⟩ ?_ (by rw [hsame])
  rw [GenerationReport.mem_files_ofOutcomes, outcomes, List.mem_map]
  exact ⟨d, hd, hgenerated⟩

theorem sameTargets_of_generate (h : t.generate renderer fields directory disk = .ok (r, next)) :
    SameTargets directory disk next := by
  obtain ⟨due, -, -, rfl⟩ := Template.generate_eq_ok_iff.mp h
  have hafter := @sameTargets_generateAll renderer fields directory disk due .blank
  rwa [generateAll_eq] at hafter

/-- A run leaves alone what a path leads to that it does not report. -/
theorem node?_of_generate (h : t.generate renderer fields directory disk = .ok (r, next))
    (hname : Path.IsFileName name) (htarget : disk.target (Path.join directory name) = .ok place)
    (hpath : ∀ f ∈ r.files, f.path ≠ Path.join directory name) :
    next.node? place = disk.node? place := by
  obtain ⟨due, -, rfl, rfl⟩ := Template.generate_eq_ok_iff.mp h
  exact node?_putFiles_of_not_mem (not_mem_deliveries hname htarget hpath)

/-- What documents report when they are generated in turn. -/
theorem files_generateAll : (generateAll renderer fields directory ds .blank disk).1.files =
    ds.filterMap fun d => (d.generate renderer fields directory disk).1.toOption := by
  rw [generateAll_eq]
  exact files_outcomes

/--
The file that a run reports after others is that of the due document whose turn comes after theirs.
If the run does not report it again, it stands at its place after the run.
-/
theorem node?_of_reported {earlier later : List GeneratedFile} {f : GeneratedFile}
    (h : t.generate renderer fields directory disk = .ok (r, next))
    (hr : r.files = earlier ++ f :: later) :
    ∃ before d others place bytes, dueDocuments fields t.documents = .ok (before ++ d :: others) ∧
      (generateAll renderer fields directory before .blank disk).1.files = earlier ∧
      (generateAll renderer fields directory (before ++ [d]) .blank disk).1.files =
        earlier ++ [f] ∧
      d.Delivers renderer fields directory disk f.filename place bytes ∧
      f.path = Path.join directory f.filename ∧
      ((∀ g ∈ later, g.path ≠ f.path) → next.node? place = some (.file bytes)) := by
  obtain ⟨due, hdue, rfl, rfl⟩ := Template.generate_eq_ok_iff.mp h
  rw [files_outcomes] at hr
  obtain ⟨front, rest, rfl, hearlier, hrest⟩ := List.filterMap_eq_append_iff.mp hr
  obtain ⟨failed, d, others, rfl, hfailed, hd, hlater⟩ := List.filterMap_eq_cons_iff.mp hrest
  obtain ⟨place, bytes, hdelivers, hdelivery, hf⟩ :=
    Document.delivers_of_generate (toOption_eq_some_iff.mp hd)
  rw [← List.append_assoc] at hdue ⊢
  -- documents that fail in between report nothing
  have hbefore : (generateAll renderer fields directory (front ++ failed) .blank disk).1.files =
      earlier := by
    rw [files_generateAll, List.filterMap_append, hearlier, List.filterMap_eq_nil_iff.mpr hfailed,
      List.append_nil]
  refine ⟨front ++ failed, d, others, place, bytes, hdue, hbefore, ?_, hdelivers, hf,
    fun hlast => ?_⟩
  · rw [files_generateAll, List.filterMap_append, ← files_generateAll, hbefore]
    exact congrArg (earlier ++ ·) (List.filterMap_cons_some hd)
  · have hfiles : deliveries renderer fields directory disk (front ++ failed ++ d :: others) =
        deliveries renderer fields directory disk (front ++ failed) ++
          (place, bytes) :: deliveries renderer fields directory disk others := by
      rw [deliveries, List.filterMap_append, List.filterMap_cons_some hdelivery]
      rfl
    have hfree := @areFree_deliveries renderer fields directory disk (front ++ failed ++ d :: others)
    rw [hfiles] at hfree ⊢
    refine node?_putFiles_append_cons hfree (not_mem_deliveries
      (Document.isFileName_of_fileName hdelivers.fileName_eq) hdelivers.target_eq ?_)
    rw [← hf, files_outcomes, hlater]
    exact hlast

/-! ## Runs after each other -/

/-- What documents are generated from. -/
structure Call where
  template : Template
  renderer : Renderer
  fields : Fields

/-- Calls that succeed, each on the disk that the one before it left, with their reports. -/
inductive Runs (directory : String) : Disk → List (Call × GenerationReport) → Disk → Prop
  | nil {disk : Disk} : Runs directory disk [] disk
  | cons {c : Call} {r : GenerationReport} {rest : List (Call × GenerationReport)}
      {disk next final : Disk} (head : c.template.generate c.renderer c.fields directory disk =
        .ok (r, next)) (tail : Runs directory next rest final) :
      Runs directory disk ((c, r) :: rest) final

namespace Runs

variable {c : Call} {runs earlier later : List (Call × GenerationReport)}

theorem exists_of_append (h : Runs directory disk (earlier ++ (c, r) :: later) final) :
    ∃ start next, Runs directory disk earlier start ∧
      c.template.generate c.renderer c.fields directory start = .ok (r, next) ∧
      Runs directory next later final := by
  induction earlier generalizing disk with
  | nil =>
    cases h with
    | cons head tail => exact ⟨_, _, .nil, head, tail⟩
  | cons other rest ih =>
    cases h with
    | cons head tail =>
      obtain ⟨start, next, hearlier, hcall, hlater⟩ := ih tail
      exact ⟨start, next, .cons head hearlier, hcall, hlater⟩

/-- Runs leave the paths below the directory alone. -/
theorem sameTargets (h : Runs directory disk runs final) : SameTargets directory disk final := by
  induction h with
  | nil => exact .refl directory _
  | cons head tail ih => exact (sameTargets_of_generate head).trans ih

/-- Runs leave alone what a path leads to that none of them reports. -/
theorem node?_eq (h : Runs directory disk runs final) (hname : Path.IsFileName name)
    (htarget : disk.target (Path.join directory name) = .ok place)
    (hpath : ∀ f ∈ runs.flatMap (·.2.files), f.path ≠ Path.join directory name) :
    final.node? place = disk.node? place := by
  induction h with
  | nil => rfl
  | @cons c r rest disk next final head tail ih =>
    rw [List.flatMap_cons, List.forall_mem_append] at hpath
    rw [ih (by rwa [sameTargets_of_generate head name hname]) hpath.2]
    exact node?_of_generate head hname htarget hpath.1

/-- A file that is not reported again is read under its path after all runs. -/
theorem read_of_reported {before after : List GeneratedFile} {f : GeneratedFile}
    (h : Runs directory disk (earlier ++ (c, r) :: later) final)
    (hr : r.files = before ++ f :: after) :
    ∃ start ds d es bytes, Runs directory disk earlier start ∧
      dueDocuments c.fields c.template.documents = .ok (ds ++ d :: es) ∧
      (generateAll c.renderer c.fields directory ds .blank start).1.files = before ∧
      (generateAll c.renderer c.fields directory (ds ++ [d]) .blank start).1.files =
        before ++ [f] ∧
      d.fileName c.fields = .ok f.filename ∧ f.path = Path.join directory f.filename ∧
      d.fill c.renderer c.fields = .ok bytes ∧
      ((∀ g ∈ after ++ later.flatMap (·.2.files), g.path ≠ f.path) →
        final.read f.path = .ok bytes) := by
  obtain ⟨start, next, hearlier, head, tail⟩ := h.exists_of_append
  obtain ⟨ds, d, es, place, bytes, hdue, hbefore, hturn, hdelivers, hf, hstands⟩ :=
    node?_of_reported head hr
  refine ⟨start, ds, d, es, bytes, hearlier, hdue, hbefore, hturn, hdelivers.fileName_eq, hf,
    hdelivers.fill_eq, fun hlast => ?_⟩
  obtain ⟨hafter, hlater⟩ := List.forall_mem_append.mp hlast
  have hname := Document.isFileName_of_fileName hdelivers.fileName_eq
  have hnext : next.target (Path.join directory f.filename) = .ok place := by
    rw [sameTargets_of_generate head f.filename hname, hdelivers.target_eq]
  have hnode : final.node? place = some (.file bytes) := by
    rw [tail.node?_eq hname hnext (by rwa [← hf])]
    exact hstands hafter
  have hfinal : final.target f.path = .ok place := by
    rw [hf, tail.sameTargets f.filename hname, hnext]
  exact read_of_target hfinal hnode

/-- Of all files that are reported under a path one is the last. -/
theorem exists_last_reported {path : String} (h : ∃ f ∈ runs.flatMap (·.2.files), f.path = path) :
    ∃ earlier c r later before f after, runs = earlier ++ (c, r) :: later ∧
      r.files = before ++ f :: after ∧ f.path = path ∧
      ∀ g ∈ after ++ later.flatMap (·.2.files), g.path ≠ path := by
  obtain ⟨f, hf, hpath⟩ := h
  obtain ⟨run, hrun, hreported⟩ := List.mem_flatMap.mp hf
  obtain ⟨earlier, ⟨c, r⟩, later, rfl, ⟨f', hf', hpath'⟩, hlater⟩ :=
    exists_last (P := fun run => ∃ f ∈ run.2.files, f.path = path) hrun ⟨f, hreported, hpath⟩
  obtain ⟨before, last, after, hfiles, hlast, hafter⟩ :=
    exists_last (P := fun f => f.path = path) hf' hpath'
  refine ⟨earlier, c, r, later, before, last, after, rfl, hfiles, hlast, fun g hg heq => ?_⟩
  rcases List.mem_append.mp hg with hg | hg
  · exact hafter g hg heq
  · obtain ⟨other, hother, hg⟩ := List.mem_flatMap.mp hg
    exact hlater other hother ⟨g, hg, heq⟩

/-- Under a path that was reported a document is read that was reported there. -/
theorem exists_read_of_reported (h : Runs directory disk runs final) {f : GeneratedFile}
    (hf : f ∈ runs.flatMap (·.2.files)) :
    ∃ run ∈ runs, ∃ g ∈ run.2.files, ∃ d ∈ run.1.template.documents, ∃ bytes,
      g.path = f.path ∧ d.fileName run.1.fields = .ok g.filename ∧
      d.fill run.1.renderer run.1.fields = .ok bytes ∧ final.read f.path = .ok bytes := by
  obtain ⟨earlier, c, r, later, before, g, after, rfl, hr, hpath, hlast⟩ :=
    exists_last_reported ⟨f, hf, rfl⟩
  obtain ⟨-, ds, d, es, bytes, -, hdue, -, -, hname, -, hfill, hread⟩ := h.read_of_reported hr
  have hg : g ∈ r.files := by simp [hr]
  have hd : d ∈ c.template.documents := mem_of_dueDocuments hdue (by simp)
  refine ⟨(c, r), by simp, g, hg, d, hd, bytes, hpath, hname, hfill, ?_⟩
  rw [← hpath] at hlast ⊢
  exact hread hlast

end Runs

/-! ## Rows of a batch -/

/-- An input is treated by one run on the fields of its report, or nothing is generated from it. -/
theorem Session.evaluateAndGenerate_cases (s : Session) (disk : Disk) (input : Json)
    (directory : String) :
    (∃ t report g next, s.template = some t ∧
      t.generate s.renderer report.fields directory disk = .ok (g, next) ∧
      s.evaluateAndGenerate disk input directory = ⟨s, next, .ok ⟨report, some g⟩⟩) ∨
    ∃ answer, (∀ o, answer = .ok o → o.generation = none) ∧
      s.evaluateAndGenerate disk input directory = ⟨s, disk, answer⟩ := by
  unfold evaluateAndGenerate
  cases htemplate : s.template with
  | none =>
    refine .inr ⟨.error .noTemplate, by simp, ?_⟩
    rw [current, htemplate]
  | some t =>
    rw [current, htemplate]
    dsimp only
    cases hreport : t.evaluate input with
    | error cause => exact .inr ⟨_, by simp, rfl⟩
    | ok report =>
      dsimp only
      split
      · rw [generateWith]
        cases hgenerate : t.generate s.renderer report.fields directory disk with
        | error cause => exact .inr ⟨_, by simp [Except.map], rfl⟩
        | ok result => exact .inl ⟨t, report, result.1, result.2, rfl, hgenerate, rfl⟩
      · exact .inr ⟨.ok ⟨report, none⟩, by simp, rfl⟩

/-- The run for a row, if there was one. -/
def RowOutcome.run? (t : Template) (renderer : Renderer) (row : RowOutcome) :
    Option (Call × GenerationReport) :=
  row.outcome.generation.map fun g => (⟨t, renderer, row.outcome.evaluation.fields⟩, g)

/-- Rows are treated by runs after each other. -/
theorem runs_treat (policy : Policy) {columns : List String} {number : Nat}
    {records : List (Except Csv.Fault (List String))} :
    Runs directory disk
      ((Batch.treat ⟨policy, renderer, some t⟩ directory columns number disk records).rows.filterMap
        (·.run? t renderer))
      (Batch.treat ⟨policy, renderer, some t⟩ directory columns number disk records).disk := by
  induction records generalizing number disk with
  | nil => exact .nil
  | cons record rest ih =>
    cases record with
    | error cause => exact .nil
    | ok cells =>
      unfold Batch.treat
      rcases Session.evaluateAndGenerate_cases ⟨policy, renderer, some t⟩ disk
          (Batch.inputOf columns cells) directory with
        ⟨t', report, g, next, htemplate, hgenerate, heq⟩ | ⟨answer, hnothing, heq⟩
      · obtain rfl : t = t' := Option.some.inj htemplate
        rw [heq]
        exact .cons hgenerate ih
      · rw [heq]
        cases answer with
        | error cause => exact .nil
        | ok o =>
          dsimp only
          rw [List.filterMap_cons_none (by rw [RowOutcome.run?, hnothing o rfl]; rfl)]
          exact ih

/--
Every file that a sequence of runs reports belongs to the document that was due at its turn: the
documents before it report what is reported before, and it adds the file. If its path is not
reported again, by a later document of the same run or by a later run, then what is read under the
path in the end are the bytes that the document was filled to. In any case it is some document that
was reported under the path. The rows of a batch are treated by such a sequence.
-/
theorem reported_last_is_read :
    (∀ (directory : String) (disk final : Disk) (earlier later : List (Call × GenerationReport))
      (c : Call) (r : GenerationReport) (before after : List GeneratedFile) (f : GeneratedFile),
      Runs directory disk (earlier ++ (c, r) :: later) final →
      r.files = before ++ f :: after →
        ∃ start ds d es bytes, Runs directory disk earlier start ∧
          dueDocuments c.fields c.template.documents = .ok (ds ++ d :: es) ∧
          (generateAll c.renderer c.fields directory ds .blank start).1.files = before ∧
          (generateAll c.renderer c.fields directory (ds ++ [d]) .blank start).1.files =
            before ++ [f] ∧
          d.fileName c.fields = .ok f.filename ∧ f.path = Path.join directory f.filename ∧
          d.fill c.renderer c.fields = .ok bytes ∧
          ((∀ g ∈ after ++ later.flatMap (·.2.files), g.path ≠ f.path) →
            final.read f.path = .ok bytes)) ∧
      (∀ (directory : String) (disk final : Disk) (runs : List (Call × GenerationReport)),
        Runs directory disk runs final → ∀ f ∈ runs.flatMap (·.2.files),
          ∃ run ∈ runs, ∃ g ∈ run.2.files, ∃ d ∈ run.1.template.documents, ∃ bytes,
            g.path = f.path ∧ d.fileName run.1.fields = .ok g.filename ∧
            d.fill run.1.renderer run.1.fields = .ok bytes ∧ final.read f.path = .ok bytes) ∧
      ∀ (policy : Policy) (renderer : Renderer) (t : Template) (disk : Disk) (sheet : Sheet)
        (directory : String),
        Runs directory disk
          ((Batch.ofSheet ⟨policy, renderer, some t⟩ disk sheet directory).rows.filterMap
            (·.run? t renderer))
          (Batch.ofSheet ⟨policy, renderer, some t⟩ disk sheet directory).disk := by
  refine ⟨?_, ?_, fun policy renderer t disk sheet directory => runs_treat policy⟩
  · intro directory disk final earlier later c r before after f hruns hr
    exact hruns.read_of_reported hr
  · intro directory disk final runs hruns f hf
    exact hruns.exists_read_of_reported hf

/-- Names for the letters to a client about itself. -/
def acmeFields : Fields := Dict.ofList
  [("client", .text "Acme"), ("project", .text "2026/Acme"), ("overdue", .flag false)]

/-- The report of the letters to a client about itself. -/
def acmeReport : GenerationReport :=
  ⟨[⟨"out/Acme.docx", "Acme.docx"⟩, ⟨"out/Acme.docx", "Acme.docx"⟩], [], 0⟩

/-- The disk with the letters about a tower, and then those to a client about itself. -/
def acmeDisk : Disk := towerDisk.putFiles
  [(["out", "Acme.docx"], ⟨#[79]⟩), (["out", "Acme.docx"], ⟨#[66]⟩)]

theorem runs_acme :
    Runs "out" towerDisk [(⟨letters, copying, acmeFields⟩, acmeReport)] acmeDisk := by
  have hgenerate : letters.generate copying acmeFields "out" towerDisk =
      .ok (acmeReport, acmeDisk) := by
    with_unfolding_all rfl
  exact .cons hgenerate .nil

/-- The bill about a tower is still there after other letters, and so is a letter to the client. -/
theorem tower_bill_is_read :
    Runs "out" lettersDisk [(⟨letters, copying, towerFields⟩, towerReport),
        (⟨letters, copying, acmeFields⟩, acmeReport)] acmeDisk ∧
      (∃ d ∈ letters.documents, ∃ bytes, d.fileName towerFields = .ok "Tower.docx" ∧
        d.fill copying towerFields = .ok bytes ∧
        acmeDisk.read "out/Tower.docx" = .ok bytes) ∧
      ∃ bytes, acmeDisk.read "out/Acme.docx" = .ok bytes := by
  have hruns : Runs "out" lettersDisk [(⟨letters, copying, towerFields⟩, towerReport),
      (⟨letters, copying, acmeFields⟩, acmeReport)] acmeDisk := .cons generate_tower runs_acme
  obtain ⟨hlast, hany, -⟩ := reported_last_is_read
  refine ⟨hruns, ?_, ?_⟩
  · obtain ⟨-, ds, d, es, bytes, -, hdue, -, -, hname, -, hfill, hread⟩ :=
      hlast "out" lettersDisk acmeDisk [] [(⟨letters, copying, acmeFields⟩, acmeReport)]
        ⟨letters, copying, towerFields⟩ towerReport [⟨"out/Acme.docx", "Acme.docx"⟩] []
        ⟨"out/Tower.docx", "Tower.docx"⟩ hruns rfl
    have hd : d ∈ letters.documents := mem_of_dueDocuments hdue (by simp)
    exact ⟨d, hd, bytes, hname, hfill, hread (by decide)⟩
  · obtain ⟨-, -, -, -, -, -, bytes, -, -, -, hread⟩ :=
      hany "out" lettersDisk acmeDisk _ hruns ⟨"out/Acme.docx", "Acme.docx"⟩ (.head _)
    exact ⟨bytes, hread⟩

/-- The bill to a client about itself takes the place of the offer, though both are reported. -/
theorem acme_bill_replaces_offer :
    (∃ t, Template.ofDefinition lettersDefinition = .ok t ∧
      t.loaded? lettersStore = .ok letters) ∧
      Runs "out" towerDisk [(⟨letters, copying, acmeFields⟩, acmeReport)] acmeDisk ∧
      acmeReport.files = [⟨"out/Acme.docx", "Acme.docx"⟩, ⟨"out/Acme.docx", "Acme.docx"⟩] ∧
      dueDocuments acmeFields letters.documents =
        .ok [letters.documents[0], letters.documents[1]] ∧
      letters.documents[0].fill copying acmeFields = .ok ⟨#[79]⟩ ∧
      acmeDisk.read "out/Acme.docx" ≠ .ok ⟨#[79]⟩ := by
  have hread : acmeDisk.read "out/Acme.docx" = .ok ⟨#[66]⟩ := by with_unfolding_all rfl
  refine ⟨letters_are_loaded, runs_acme, rfl, rfl, rfl, ?_⟩
  rw [hread]
  decide

end Paperwork
