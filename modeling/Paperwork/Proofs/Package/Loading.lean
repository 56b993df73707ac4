import Paperwork.Package
import Paperwork.Proofs.Template.Payloads

/-!
# Loading packages

Whether a package is a directory or an archive, loading it only depends on the bytes that are found
under each name (`Package.ofFiles`). The definition that is looked for first says which documents
there are; the bytes of each are its payload, and the first document without any makes the loading
fail (`Package.Loads`, `loads_ofFiles`). Names that are neither those of definitions nor those of
documents of the definition in use do not matter (`ofFiles_congr`).
-/

namespace Paperwork

/-! ## Fetching everything -/

namespace Template

variable {ε : Type} {source source' : String → Except ε ByteArray} {t : Template}

theorem fetchPayloads_congr {ds : List Document} (h : ∀ d ∈ ds, source d.name = source' d.name)
    (asked : List String) :
    fetchPayloads (recording source) ds asked = fetchPayloads (recording source') ds asked := by
  induction ds generalizing asked with
  | nil => rfl
  | cons d rest ih =>
    obtain ⟨hd, hrest⟩ := List.forall_mem_cons.mp h
    have hcall : recording source d.name asked = recording source' d.name asked := by
      rw [recording, recording, hd]
    simp only [fetchPayloads, hcall, ih hrest]

theorem loaded?_congr (h : ∀ d ∈ t.documents, source d.name = source' d.name) :
    t.loaded? source = t.loaded? source' := by
  simp only [loaded?, attachPayloads, attachPayloadsIn, fetchPayloads_congr h]

/-- Documents without payloads get all of them, or the first one that fails is the failure. -/
theorem fetchPayloads_of_contents {ds : List Document} (hblank : ∀ d ∈ ds, d.contents = none)
    (source : String → Except ε ByteArray) (asked : List String) :
    (∀ d ∈ ds, ∃ bytes, source d.name = .ok bytes) ∧
        (fetchPayloads (recording source) ds asked).failure = none ∧
        (fetchPayloads (recording source) ds asked).documents =
          ds.map (fun d => { d with contents := (source d.name).toOption }) ∨
      ∃ before d after e, ds = before ++ d :: after ∧
        (∀ x ∈ before, ∃ bytes, source x.name = .ok bytes) ∧ source d.name = .error e ∧
        (fetchPayloads (recording source) ds asked).failure = some e := by
  induction ds generalizing asked with
  | nil => exact .inl ⟨by simp, rfl, rfl⟩
  | cons d rest ih =>
    obtain ⟨hd, hrest⟩ := List.forall_mem_cons.mp hblank
    have hmissing : ¬d.isLoaded := by
      rw [Document.isLoaded, hd]
      simp
    rw [fetchPayloads, if_neg hmissing, recording]
    cases hsource : source d.name with
    | error e => exact .inr ⟨[], d, rest, e, rfl, by simp, hsource, rfl⟩
    | ok bytes =>
      rcases ih hrest (asked ++ [d.name]) with ⟨hall, hfailure, hdocuments⟩ |
        ⟨before, x, after, e, rfl, hbefore, hfails, hfailure⟩
      · refine .inl ⟨List.forall_mem_cons.mpr ⟨⟨bytes, hsource⟩, hall⟩, hfailure, ?_⟩
        dsimp only
        rw [hdocuments, List.map_cons, Document.attach_eq, Document.receive, hd, hsource]
        rfl
      · exact .inr ⟨d :: before, x, after, e, rfl,
          List.forall_mem_cons.mpr ⟨⟨bytes, hsource⟩, hbefore⟩, hfails, hfailure⟩

/-- A template without payloads gets all of them, or the first one that fails is the failure. -/
theorem loaded?_of_contents (hblank : ∀ d ∈ t.documents, d.contents = none)
    (source : String → Except ε ByteArray) :
    (∀ d ∈ t.documents, ∃ bytes, source d.name = .ok bytes) ∧
        t.loaded? source = .ok { t with
          documents := t.documents.map fun d => { d with contents := (source d.name).toOption } } ∨
      ∃ before d after e, t.documents = before ++ d :: after ∧
        (∀ x ∈ before, ∃ bytes, source x.name = .ok bytes) ∧ source d.name = .error e ∧
        t.loaded? source = .error e := by
  rw [loaded?, attachPayloads, attachPayloadsIn]
  rcases fetchPayloads_of_contents hblank source [] with ⟨hall, hfailure, hdocuments⟩ |
    ⟨before, d, after, e, hsplit, hbefore, hfails, hfailure⟩
  · left
    rw [hfailure, hdocuments]
    exact ⟨hall, rfl⟩
  · right
    rw [hfailure]
    exact ⟨before, d, after, e, hsplit, hbefore, hfails, rfl⟩

end Template

/-! ## Packages as files under names -/

namespace Package

variable {files files' : String → Option ByteArray} {name : String} {bytes : ByteArray}
  {t : Template}

/-- Reads the file of a name, which may be missing. -/
def fetchFrom (files : String → Option ByteArray) : Fetch := fun name =>
  match files name with
  | some bytes => .ok bytes
  | none => .error (.missingDocument name)

theorem fetchFrom_of_some (h : files name = some bytes) : fetchFrom files name = .ok bytes := by
  rw [fetchFrom, h]

theorem fetchFrom_of_none (h : files name = none) :
    fetchFrom files name = .error (.missingDocument name) := by
  rw [fetchFrom, h]

theorem toOption_fetchFrom (files : String → Option ByteArray) (name : String) :
    (fetchFrom files name).toOption = files name := by
  rw [fetchFrom]
  cases files name <;> rfl

theorem exists_fetchFrom_iff : (∃ bytes, fetchFrom files name = .ok bytes) ↔ files name ≠ none := by
  rw [fetchFrom]
  cases files name <;> simp

/-- Loads the package that the files under the names make up. -/
def ofFiles (files : String → Option ByteArray) : Except PackageError Template :=
  load (fun name => (files name).isSome) .ofFileName (fetchFrom files)

/-- The definition of a package is the first one that is looked for and found. -/
structure Declares (files : String → Option ByteArray) (name : String) (bytes : ByteArray) :
    Prop where
  found : definitionNames.find? (fun n => (files n).isSome) = some name
  bytes_eq : files name = some bytes

/-- The definition of a package is made into a template. -/
structure Defines (files : String → Option ByteArray) (definition : Definition) (t : Template) :
    Prop where
  reads : ∃ name bytes, Declares files name bytes ∧
    Definition.ofText (.ofFileName name) bytes = .ok definition
  makes : Template.ofDefinition definition = .ok t

/-- What loading a package leads to, as its files have it. -/
inductive Loads (files : String → Option ByteArray) : Except PackageError Template → Prop
  | noDefinition (h : ∀ n ∈ definitionNames, files n = none) :
      Loads files (.error .missingDefinition)
  | malformed {name : String} {bytes : ByteArray} {cause : SourceError}
      (declares : Declares files name bytes)
      (fails : Definition.ofText (.ofFileName name) bytes = .error cause) :
      Loads files (.error (.source cause))
  | refused {name : String} {bytes : ByteArray} {definition : Definition} {cause : TemplateError}
      (declares : Declares files name bytes)
      (reads : Definition.ofText (.ofFileName name) bytes = .ok definition)
      (fails : Template.ofDefinition definition = .error cause) :
      Loads files (.error (.template cause))
  | incomplete {definition : Definition} {t : Template} {before after : List Document}
      {d : Document} (defines : Defines files definition t)
      (documents_eq : t.documents = before ++ d :: after)
      (found : ∀ x ∈ before, files x.name ≠ none) (missing : files d.name = none) :
      Loads files (.error (.missingDocument d.name))
  | complete {definition : Definition} {t : Template} (defines : Defines files definition t)
      (found : ∀ d ∈ t.documents, files d.name ≠ none) :
      Loads files (.ok { t with
        documents := t.documents.map fun d => { d with contents := files d.name } })

/-! ## Definitions of packages -/

theorem declares_or_none (files : String → Option ByteArray) :
    (∃ name bytes, Declares files name bytes) ∨ ∀ n ∈ definitionNames, files n = none := by
  cases hfound : definitionNames.find? (fun n => (files n).isSome) with
  | none =>
    right
    intro n hn
    simpa using List.find?_eq_none.mp hfound n hn
  | some name =>
    left
    have hsome := List.find?_some hfound
    obtain ⟨bytes, hbytes⟩ := Option.isSome_iff_exists.mp hsome
    exact ⟨name, bytes, hfound, hbytes⟩

theorem Declares.unique {name' : String} {bytes' : ByteArray} (h : Declares files name bytes)
    (h' : Declares files name' bytes') : name = name' ∧ bytes = bytes' := by
  obtain rfl : name = name' := Option.some.inj (h.found.symm.trans h'.found)
  exact ⟨rfl, Option.some.inj (h.bytes_eq.symm.trans h'.bytes_eq)⟩

/-- The same definition is found among files that agree on the names of definitions. -/
theorem Declares.congr (h : Declares files name bytes)
    (hsame : ∀ n ∈ definitionNames, files n = files' n) : Declares files' name bytes := by
  constructor
  · rw [← h.found, ← List.head?_filter, ← List.head?_filter]
    refine congrArg List.head? (List.filter_congr fun n hn => ?_)
    rw [hsame n hn]
  · rw [← hsame name (List.mem_of_find?_eq_some h.found), h.bytes_eq]

theorem readTemplate_of_ofText {format : DefinitionFormat} {definition : Definition}
    (h : Definition.ofText format bytes = .ok definition) :
    readTemplate format bytes = (Template.ofDefinition definition).mapError .template := by
  rw [readTemplate, h]
  rfl

/-- Reading a definition as a template fails for one of two reasons. -/
theorem readTemplate_cases (format : DefinitionFormat) (bytes : ByteArray) :
    (∃ cause, Definition.ofText format bytes = .error cause ∧
        readTemplate format bytes = .error (.source cause)) ∨
      ∃ definition, Definition.ofText format bytes = .ok definition ∧
        ((∃ cause, Template.ofDefinition definition = .error cause ∧
            readTemplate format bytes = .error (.template cause)) ∨
          ∃ t, Template.ofDefinition definition = .ok t ∧ readTemplate format bytes = .ok t) := by
  cases hreads : Definition.ofText format bytes with
  | error cause => exact .inl ⟨cause, rfl, by rw [readTemplate, hreads]; rfl⟩
  | ok definition =>
    rw [readTemplate_of_ofText hreads]
    cases hmakes : Template.ofDefinition definition with
    | error cause => exact .inr ⟨definition, rfl, .inl ⟨cause, hmakes, rfl⟩⟩
    | ok t => exact .inr ⟨definition, rfl, .inr ⟨t, hmakes, rfl⟩⟩

theorem exists_defines (h : Declares files name bytes)
    (ht : readTemplate (.ofFileName name) bytes = .ok t) :
    ∃ definition, Defines files definition t := by
  rcases readTemplate_cases (.ofFileName name) bytes with ⟨cause, -, heq⟩ |
    ⟨definition, hreads, ⟨cause, -, heq⟩ | ⟨made, hmakes, heq⟩⟩
  · rw [heq] at ht
    cases ht
  · rw [heq] at ht
    cases ht
  · rw [heq] at ht
    obtain rfl := Except.ok.inj ht
    exact ⟨definition, ⟨name, bytes, h, hreads⟩, hmakes⟩

/-! ## Loading -/

/-- Only the formats of the names of definitions matter. -/
theorem load_congr {has : String → Bool} {format format' : String → DefinitionFormat}
    {fetch : Fetch} (h : ∀ n ∈ definitionNames, format n = format' n) :
    load has format fetch = load has format' fetch := by
  rw [load, load]
  cases hfound : definitionNames.find? has with
  | none => rfl
  | some name =>
    dsimp only
    rw [h name (List.mem_of_find?_eq_some hfound)]

theorem ofFiles_of_forall_none (h : ∀ n ∈ definitionNames, files n = none) :
    ofFiles files = .error .missingDefinition := by
  rw [ofFiles, load, List.find?_eq_none.mpr]
  intro n hn
  simp [h n hn]

theorem ofFiles_of_declares (h : Declares files name bytes) :
    ofFiles files =
      readTemplate (.ofFileName name) bytes >>= fun t => t.loaded? (fetchFrom files) := by
  rw [ofFiles, load, h.found]
  dsimp only
  rw [fetchFrom_of_some h.bytes_eq]
  rfl

theorem ofFiles_of_defines {definition : Definition} (h : Defines files definition t) :
    ofFiles files = t.loaded? (fetchFrom files) := by
  obtain ⟨name, bytes, hdeclares, hreads⟩ := h.reads
  rw [ofFiles_of_declares hdeclares, readTemplate_of_ofText hreads, h.makes]
  rfl

/-- A template of a definition is loaded with the files of its documents, if none is missing. -/
theorem ofFiles_cases_of_defines {definition : Definition} (h : Defines files definition t) :
    (∀ d ∈ t.documents, files d.name ≠ none) ∧
        ofFiles files = .ok { t with
          documents := t.documents.map fun d => { d with contents := files d.name } } ∨
      ∃ before d after, t.documents = before ++ d :: after ∧
        (∀ x ∈ before, files x.name ≠ none) ∧ files d.name = none ∧
        ofFiles files = .error (.missingDocument d.name) := by
  rw [ofFiles_of_defines h]
  have hblank := (Template.documents_of_ofDefinition h.makes).2
  rcases Template.loaded?_of_contents hblank (fetchFrom files) with
    ⟨hall, hloaded⟩ | ⟨before, d, after, e, hdocuments, hbefore, hfails, hloaded⟩
  · left
    simp only [toOption_fetchFrom] at hloaded
    exact ⟨fun d hd => exists_fetchFrom_iff.mp (hall d hd), hloaded⟩
  · right
    have hmissing : files d.name = none := by
      by_contra hne
      obtain ⟨bytes, hok⟩ := exists_fetchFrom_iff.mpr hne
      rw [hok] at hfails
      cases hfails
    rw [fetchFrom_of_none hmissing] at hfails
    obtain rfl := Except.error.inj hfails
    exact ⟨before, d, after, hdocuments, fun x hx => exists_fetchFrom_iff.mp (hbefore x hx),
      hmissing, hloaded⟩

/-- Loading leads to what the files say. -/
theorem loads_ofFiles (files : String → Option ByteArray) : Loads files (ofFiles files) := by
  rcases declares_or_none files with ⟨name, bytes, hdeclares⟩ | hnone
  · rcases readTemplate_cases (.ofFileName name) bytes with ⟨cause, hreads, heq⟩ |
      ⟨definition, hreads, ⟨cause, hmakes, heq⟩ | ⟨t, hmakes, -⟩⟩
    · rw [ofFiles_of_declares hdeclares, heq]
      exact .malformed hdeclares hreads
    · rw [ofFiles_of_declares hdeclares, heq]
      exact .refused hdeclares hreads hmakes
    · have hdefines : Defines files definition t := ⟨⟨name, bytes, hdeclares, hreads⟩, hmakes⟩
      rcases ofFiles_cases_of_defines hdefines with
        ⟨hfound, heq⟩ | ⟨before, d, after, hdocuments, hbefore, hmissing, heq⟩
      · rw [heq]
        exact .complete hdefines hfound
      · rw [heq]
        exact .incomplete hdefines hdocuments hbefore hmissing
  · rw [ofFiles_of_forall_none hnone]
    exact .noDefinition hnone

/-- Only the files of definitions and of the documents of the definition in use matter. -/
theorem ofFiles_congr (hdefinitions : ∀ n ∈ definitionNames, files n = files' n)
    (hdocuments : ∀ definition t, Defines files definition t →
      ∀ d ∈ t.documents, files d.name = files' d.name) :
    ofFiles files = ofFiles files' := by
  rcases declares_or_none files with ⟨name, bytes, hdeclares⟩ | hnone
  · rw [ofFiles_of_declares hdeclares, ofFiles_of_declares (hdeclares.congr hdefinitions)]
    cases ht : readTemplate (.ofFileName name) bytes with
    | error e => rfl
    | ok t =>
      obtain ⟨definition, hdefines⟩ := exists_defines hdeclares ht
      refine Template.loaded?_congr fun d hd => ?_
      rw [fetchFrom, fetchFrom, hdocuments definition t hdefines d hd]
  · have hnone' : ∀ n ∈ definitionNames, files' n = none := by
      intro n hn
      rw [← hdefinitions n hn, hnone n hn]
    rw [ofFiles_of_forall_none hnone, ofFiles_of_forall_none hnone']

end Package

end Paperwork
