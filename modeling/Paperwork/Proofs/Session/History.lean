import Paperwork.Proofs.Session.Channels

/-!
# Sessions over time

An operation of a session that fails leaves all as it was; one that succeeds makes the template that
it loads the current one, or it leaves the current one alone (`Leaves`). So after any number of
steps the current template is the one loaded last, and templates that were taken out of the session
on the way evaluate as they did (`session_history`).
-/

namespace Paperwork

/-! ## One operation -/

/--
What an operation leaves behind: all as it was after a failure, the template that it loads as the
current one, or another disk.
-/
inductive Leaves {α : Type} (s : Session) (disk : Disk) : Option Template → Turn α → Prop
  | failed (e : SessionError) : Leaves s disk none ⟨s, disk, .error e⟩
  | loaded (t : Template) (answer : α) :
    Leaves s disk (some t) ⟨{ s with template := some t }, disk, .ok answer⟩
  | kept (after : Disk) (answer : α) : Leaves s disk none ⟨s, after, .ok answer⟩

namespace Leaves

variable {α : Type} {s : Session} {disk : Disk} {loaded : Option Template} {turn : Turn α}

theorem encoded (h : Leaves s disk loaded turn) (toJson : α → Json) :
    Leaves s disk loaded (Session.encoded turn toJson) := by
  cases h with
  | failed e => exact .failed e
  | loaded t answer => exact .loaded t (toJson answer)
  | kept after answer => exact .kept after (toJson answer)

theorem of_answer (answer : Except SessionError α) : Leaves s disk none ⟨s, disk, answer⟩ := by
  cases answer with
  | error e => exact .failed e
  | ok a => exact .kept disk a

theorem unchanged (h : Leaves s disk loaded turn) {e : SessionError}
    (hanswer : turn.answer = .error e) : turn.session = s ∧ turn.disk = disk := by
  cases h with
  | failed e => exact ⟨rfl, rfl⟩
  | loaded t answer => cases hanswer
  | kept after answer => cases hanswer

theorem template_eq (h : Leaves s disk loaded turn) :
    turn.session.template = loaded.or s.template := by
  cases h with
  | failed e => rfl
  | loaded t answer => rfl
  | kept after answer => rfl

end Leaves

namespace Session

variable (s : Session) (disk : Disk)

theorem leaves_install (result : Except SessionError Template) :
    Leaves s disk result.toOption (s.install disk result) := by
  cases result with
  | error e => exact .failed e
  | ok t => exact .loaded t t.summary

theorem leaves_loadPackage (path : String) :
    Leaves s disk (Package.ofPath disk path).toOption (s.loadPackage disk path) := by
  rw [← toOption_mapError _ SessionError.package]
  exact leaves_install s disk _

theorem leaves_loadDefinition (d : Definition) :
    Leaves s disk (Template.ofDefinition d).toOption (s.loadDefinition disk d) := by
  rw [← toOption_mapError _ SessionError.template]
  exact leaves_install s disk _

theorem leaves_generateWith (t : Template) (fields : Fields) (directory : String) :
    Leaves s disk none (s.generateWith disk t fields directory) := by
  unfold generateWith
  cases t.generate s.renderer fields directory disk with
  | error cause => exact .failed _
  | ok result => exact .kept result.2 result.1

theorem leaves_generateDocuments (fields : Fields) (directory : String) :
    Leaves s disk none (s.generateDocuments disk fields directory) := by
  unfold generateDocuments
  cases s.current with
  | error e => exact .failed e
  | ok t => exact leaves_generateWith s disk t fields directory

theorem leaves_evaluateAndGenerate (input : Json) (directory : String) :
    Leaves s disk none (s.evaluateAndGenerate disk input directory) := by
  unfold evaluateAndGenerate
  cases s.current with
  | error e => exact .failed e
  | ok t =>
    dsimp only
    cases t.evaluate input with
    | error cause => exact .failed _
    | ok report =>
      dsimp only
      split
      · have hgenerated := leaves_generateWith s disk t report.fields directory
        generalize s.generateWith disk t report.fields directory = turn at hgenerated
        cases hgenerated with
        | failed e => exact .failed e
        | kept after answer => exact .kept after _
      · exact .kept disk _

end Session

/-! ## One request -/

/-- The template that a request loads, if it loads one. -/
def Request.loaded? (disk : Disk) : Request → Option Template
  | .loadPackage path => (Package.ofPath disk path).toOption
  | .loadDefinition d => (Template.ofDefinition d).toOption
  | _ => none

namespace Session

variable (s : Session) (disk : Disk)

theorem leaves_perform (r : Request) : Leaves s disk (r.loaded? disk) (s.perform disk r) := by
  cases r with
  | loadPackage path => exact (leaves_loadPackage s disk path).encoded _
  | loadDefinition d => exact (leaves_loadDefinition s disk d).encoded _
  | evaluate input => exact .of_answer _
  | generateFields fields directory =>
    exact (leaves_generateDocuments s disk fields directory).encoded _
  | generateInput input directory =>
    exact (leaves_evaluateAndGenerate s disk input directory).encoded _
  | describe input format => exact .of_answer _

/-- A request that evaluates or describes leaves all as it was. -/
theorem perform_of_reading {r : Request}
    (h : r.channel = .evaluateTemplate ∨ r.channel = .describeTemplate) :
    (s.perform disk r).session = s ∧ (s.perform disk r).disk = disk := by
  cases r with
  | evaluate input => exact ⟨rfl, rfl⟩
  | describe input format => exact ⟨rfl, rfl⟩
  | _ => simp [Request.channel] at h

theorem encoded_install_eq_ok_iff {result : Except SessionError Template} {answer : Json} :
    (encoded (s.install disk result) Summary.toJson).answer = .ok answer ↔
      ∃ t, result.toOption = some t ∧ t.summary.toJson = answer := by
  cases result <;> simp [encoded, install, Except.map, Except.toOption]

/-- A load that is answered has loaded a template, and the answer is its summary. -/
theorem perform_of_load {r : Request} (h : r.channel = .loadTemplate) {answer : Json} :
    (s.perform disk r).answer = .ok answer ↔
      ∃ t, r.loaded? disk = some t ∧ t.summary.toJson = answer := by
  cases r with
  | loadPackage path =>
    rw [Request.loaded?, ← toOption_mapError _ SessionError.package]
    exact encoded_install_eq_ok_iff s disk
  | loadDefinition d =>
    rw [Request.loaded?, ← toOption_mapError _ SessionError.template]
    exact encoded_install_eq_ok_iff s disk
  | _ => simp [Request.channel] at h

end Session

theorem Request.channel_of_loaded? {disk : Disk} {r : Request} (h : (r.loaded? disk).isSome) :
    r.channel = .loadTemplate := by
  cases r with
  | loadPackage path => rfl
  | loadDefinition d => rfl
  | _ => cases h

/-! ## Steps -/

/-- What is done with a session in one step. -/
inductive SessionStep where
  | handle (channel payload : String)
  | loadPackage (path : String)
  | evaluate (input : Json)
  | evaluateAndGenerate (input : Json) (directory : String)
  | snapshot

/-- The request behind a step; a step that takes the current template makes none. -/
def SessionStep.request? : SessionStep → Option Request
  | .handle channel payload => (Request.ofText channel payload).toOption
  | .loadPackage path => some (.loadPackage path)
  | .evaluate input => some (.evaluate input)
  | .evaluateAndGenerate input directory => some (.generateInput input directory)
  | .snapshot => none

/-- A step that asks for a template to be loaded. -/
def SessionStep.IsLoad : SessionStep → Prop
  | .handle channel _ => channel = Channel.loadTemplate.name
  | .loadPackage _ => True
  | _ => False

/-- A step that asks for an input to be evaluated or for a form. -/
def SessionStep.IsReading : SessionStep → Prop
  | .handle channel _ =>
    channel = Channel.evaluateTemplate.name ∨ channel = Channel.describeTemplate.name
  | .evaluate _ => True
  | _ => False

namespace SessionStep

variable {step : SessionStep} {r : Request} {channel payload : String}

theorem request?_handle_eq_some_iff :
    (handle channel payload).request? = some r ↔ Request.ofText channel payload = .ok r :=
  toOption_eq_some_iff

theorem request?_handle_eq_none_iff :
    (handle channel payload).request? = none ↔ ∃ e, Request.ofText channel payload = .error e :=
  toOption_eq_none_iff

/-- A step without a request has a payload that cannot be read, or takes the current template. -/
theorem of_request?_eq_none (h : step.request? = none) :
    (∃ channel payload e, step = .handle channel payload ∧
      Request.ofText channel payload = .error e) ∨ step = .snapshot := by
  cases step with
  | handle channel payload =>
    obtain ⟨e, he⟩ := request?_handle_eq_none_iff.mp h
    exact .inl ⟨channel, payload, e, rfl, he⟩
  | snapshot => exact .inr rfl
  | _ => cases h

theorem channel_of_request? (h : step.request? = some r) :
    (step.IsLoad ↔ r.channel = .loadTemplate) ∧
      (step.IsReading ↔ r.channel = .evaluateTemplate ∨ r.channel = .describeTemplate) := by
  cases step with
  | handle channel payload =>
    have hname := Request.channel_of_ofText (request?_handle_eq_some_iff.mp h)
    rw [IsLoad, IsReading, ← hname]
    simp only [Channel.name_inj, and_self]
  | snapshot => cases h
  | _ =>
    cases h
    simp [IsLoad, IsReading, Request.channel]

end SessionStep

/-- A session in use, with its disk and the templates that were taken out of it. -/
structure SessionState where
  session : Session
  disk : Disk
  snapshots : List Template

namespace SessionState

/-- What a step leads to; its answer is in JSON form, that of a snapshot being the name. -/
def turn (w : SessionState) : SessionStep → Turn Json
  | .handle channel payload => w.session.handle w.disk channel payload
  | .loadPackage path => Session.encoded (w.session.loadPackage w.disk path) Summary.toJson
  | .evaluate input => ⟨w.session, w.disk, (w.session.evaluate input).map Report.toJson⟩
  | .evaluateAndGenerate input directory =>
    Session.encoded (w.session.evaluateAndGenerate w.disk input directory) SessionOutcome.toJson
  | .snapshot => ⟨w.session, w.disk, w.session.current.map fun t => .text t.name⟩

/-- The template that a step takes out of the session. -/
def taken (w : SessionState) : SessionStep → List Template
  | .snapshot => w.session.template.toList
  | _ => []

/-- The state after a step. -/
def next (w : SessionState) (step : SessionStep) : SessionState :=
  ⟨(w.turn step).session, (w.turn step).disk, w.snapshots ++ w.taken step⟩

/-- The state after steps in turn. -/
def after (w : SessionState) (steps : List SessionStep) : SessionState := steps.foldl next w

/-- The template that a step loads, if it loads one. -/
def loaded? (w : SessionState) (step : SessionStep) : Option Template :=
  step.request?.bind (·.loaded? w.disk)

/-- The templates that steps load, in turn. -/
def loads (w : SessionState) : List SessionStep → List Template
  | [] => []
  | step :: rest => (w.loaded? step).toList ++ (w.next step).loads rest

/-- What the snapshot of a number makes of an input, if there is one. -/
def evaluateSnapshot? (w : SessionState) (number : Nat) (input : Json) :
    Option (Except SessionError Report) :=
  w.snapshots[number]?.map fun t => (t.evaluate input).mapError .evaluation

variable (w : SessionState)

/-- A step does what the request behind it asks for. -/
theorem turn_of_request? {step : SessionStep} {r : Request} (h : step.request? = some r) :
    w.turn step = w.session.perform w.disk r := by
  cases step with
  | handle channel payload =>
    rw [turn, Session.handle, SessionStep.request?_handle_eq_some_iff.mp h]
  | snapshot => cases h
  | _ =>
    cases h
    rfl

/-- A step without a request leaves session and disk as they were. -/
theorem turn_of_request?_eq_none {step : SessionStep} (h : step.request? = none) :
    ∃ answer, w.turn step = ⟨w.session, w.disk, answer⟩ ∧
      (step.IsLoad → ∃ e, answer = .error e) := by
  obtain ⟨channel, payload, e, rfl, he⟩ | rfl := SessionStep.of_request?_eq_none h
  · refine ⟨.error e, ?_, fun _ => ⟨e, rfl⟩⟩
    rw [turn, Session.handle, he]
  · exact ⟨_, rfl, fun hload => hload.elim⟩

theorem leaves_turn (step : SessionStep) :
    Leaves w.session w.disk (w.loaded? step) (w.turn step) := by
  cases hrequest : step.request? with
  | some r =>
    rw [turn_of_request? w hrequest, loaded?, hrequest]
    exact Session.leaves_perform w.session w.disk r
  | none =>
    obtain ⟨answer, hturn, -⟩ := turn_of_request?_eq_none w hrequest
    rw [loaded?, hrequest, hturn]
    exact .of_answer answer

/-- A step that fails leaves the state as it was. -/
theorem next_of_error {step : SessionStep} {e : SessionError}
    (h : (w.turn step).answer = .error e) : w.next step = w := by
  obtain ⟨hsession, hdisk⟩ := (leaves_turn w step).unchanged h
  have htaken : w.taken step = [] := by
    cases step with
    | snapshot =>
      cases htemplate : w.session.template with
      | none => rw [taken, htemplate]; rfl
      | some t => simp [turn, Session.current, htemplate, Except.map] at h
    | _ => rfl
  rw [next, hsession, hdisk, htaken, List.append_nil]

/-- A step that evaluates or describes leaves session and disk as they were. -/
theorem turn_of_reading {step : SessionStep} (h : step.IsReading) :
    (w.turn step).session = w.session ∧ (w.turn step).disk = w.disk := by
  cases hrequest : step.request? with
  | some r =>
    rw [turn_of_request? w hrequest]
    exact Session.perform_of_reading _ _ ((SessionStep.channel_of_request? hrequest).2.mp h)
  | none =>
    obtain ⟨answer, hturn, -⟩ := turn_of_request?_eq_none w hrequest
    rw [hturn]
    exact ⟨rfl, rfl⟩

/-- The steps that load are those that ask for it and are answered, with a summary. -/
theorem loaded?_eq_some_iff {step : SessionStep} {answer : Json} :
    (∃ t, w.loaded? step = some t ∧ t.summary.toJson = answer) ↔
      step.IsLoad ∧ (w.turn step).answer = .ok answer := by
  cases hrequest : step.request? with
  | some r =>
    rw [turn_of_request? w hrequest, loaded?, hrequest, Option.bind_some,
      (SessionStep.channel_of_request? hrequest).1]
    constructor
    · rintro ⟨t, ht, hanswer⟩
      have hload := Request.channel_of_loaded? (Option.isSome_of_eq_some ht)
      exact ⟨hload, (Session.perform_of_load _ _ hload).mpr ⟨t, ht, hanswer⟩⟩
    · rintro ⟨hload, hanswer⟩
      exact (Session.perform_of_load _ _ hload).mp hanswer
  | none =>
    obtain ⟨answer', hturn, hfails⟩ := turn_of_request?_eq_none w hrequest
    rw [loaded?, hrequest, hturn]
    constructor
    · rintro ⟨t, ht, -⟩
      cases ht
    · rintro ⟨hload, hanswer⟩
      obtain ⟨e, rfl⟩ := hfails hload
      cases hanswer

/-! ## Steps in turn -/

theorem after_cons (step : SessionStep) (rest : List SessionStep) :
    w.after (step :: rest) = (w.next step).after rest := rfl

theorem after_append (before rest : List SessionStep) :
    w.after (before ++ rest) = (w.after before).after rest := List.foldl_append

/-- The current template is the last one that was loaded. -/
theorem template_after (steps : List SessionStep) :
    (w.after steps).session.template = (w.loads steps).getLast?.or w.session.template := by
  induction steps generalizing w with
  | nil => rfl
  | cons step rest ih =>
    have hnext : (w.next step).session.template = (w.loaded? step).or w.session.template :=
      (leaves_turn w step).template_eq
    have hlast : (w.loaded? step).toList.getLast? = w.loaded? step := by
      cases w.loaded? step <;> rfl
    rw [after_cons, ih, hnext, loads, List.getLast?_append, hlast, Option.or_assoc]

/-- Snapshots stay where they are. -/
theorem snapshots_after (steps : List SessionStep) :
    ∃ more, (w.after steps).snapshots = w.snapshots ++ more := by
  induction steps generalizing w with
  | nil => exact ⟨[], (List.append_nil _).symm⟩
  | cons step rest ih =>
    obtain ⟨more, hmore⟩ := ih (w.next step)
    refine ⟨w.taken step ++ more, ?_⟩
    rw [after_cons, hmore, next, List.append_assoc]

/-- A snapshot makes of an input what the session made of it when the snapshot was taken. -/
theorem evaluateSnapshot?_after {t : Template} (h : w.session.template = some t)
    (rest : List SessionStep) (input : Json) :
    (w.after (.snapshot :: rest)).evaluateSnapshot? w.snapshots.length input =
      some (w.session.evaluate input) := by
  obtain ⟨more, hmore⟩ := snapshots_after (w.next .snapshot) rest
  have htaken : (w.next .snapshot).snapshots = w.snapshots ++ [t] := by
    rw [next, taken, h]
    rfl
  have hcurrent : w.session.evaluate input = (t.evaluate input).mapError .evaluation := by
    rw [Session.evaluate, Session.current, h]
    rfl
  rw [after_cons, evaluateSnapshot?, hmore, htaken, List.append_assoc, hcurrent]
  simp

end SessionState

/--
After any steps the current template is the last one that was loaded on the way, or the first one if
none was. Of every step on the way the following holds: It loads a template exactly if it asks for
that and is answered, with a summary of the template. If it fails it leaves everything as it was. If
it evaluates or describes, it leaves the session and the disk as they were. If it takes the current
template out of the session, then in the end this template makes of any input what the session made
of it at the time.
-/
theorem session_history (w : SessionState) (steps : List SessionStep) :
    (w.after steps).session.template = (w.loads steps).getLast?.or w.session.template ∧
    ∀ before step rest, steps = before ++ step :: rest →
      (∀ answer, (∃ t, (w.after before).loaded? step = some t ∧ t.summary.toJson = answer) ↔
        step.IsLoad ∧ ((w.after before).turn step).answer = .ok answer) ∧
      (∀ e, ((w.after before).turn step).answer = .error e →
        w.after (before ++ [step]) = w.after before) ∧
      (step.IsReading → (w.after (before ++ [step])).session = (w.after before).session ∧
        (w.after (before ++ [step])).disk = (w.after before).disk) ∧
      (step = .snapshot → (w.after before).session.template.isSome → ∀ input,
        (w.after steps).evaluateSnapshot? (w.after before).snapshots.length input =
          some ((w.after before).session.evaluate input)) := by
  refine ⟨w.template_after steps, ?_⟩
  rintro before step rest rfl
  rw [w.after_append before, w.after_append before]
  refine ⟨fun answer => SessionState.loaded?_eq_some_iff _, fun e he => ?_, fun hreading => ?_, ?_⟩
  · exact SessionState.next_of_error _ he
  · exact SessionState.turn_of_reading _ hreading
  · rintro rfl htemplate input
    obtain ⟨t, ht⟩ := Option.isSome_iff_exists.mp htemplate
    exact SessionState.evaluateSnapshot?_after _ ht rest input

/-! ## Two templates in turn -/

/-- A session that starts without a template, on an empty disk. -/
def deskStart : SessionState := ⟨Session.start .strict, Disk.blank ["desk"], []⟩

/-- A note is loaded and taken out; after two loads that fail, a letter takes its place. -/
def deskSteps : List SessionStep := [
  .handle "load-template" "\x7b\"definition\":\x7b\"name\":\"note\"\x7d\x7d",
  .snapshot,
  .handle "load-template" "\x7b\"definition\":\x7b\x7d\x7d",
  .loadPackage "letter.zip",
  .evaluate (.object []),
  .handle "load-template" "\x7b\"definition\":\x7b\"name\":\"letter\"\x7d\x7d"]

theorem deskSteps_history :
    (deskStart.after deskSteps).session.template.map (·.name) = some "letter" ∧
    (deskStart.after (deskSteps.take 1)).session.template.map (·.name) = some "note" ∧
    (∀ input, (deskStart.after deskSteps).evaluateSnapshot? 0 input =
      some ((deskStart.after (deskSteps.take 1)).session.evaluate input)) ∧
    (∃ e, ((deskStart.after (deskSteps.take 2)).turn deskSteps[2]).answer = .error e) ∧
    deskStart.after (deskSteps.take 3) = deskStart.after (deskSteps.take 2) := by
  have hletter : (deskStart.after deskSteps).session.template.map (·.name) = some "letter" := by
    decide +kernel
  have hnote : (deskStart.after (deskSteps.take 1)).session.template.map (·.name) =
      some "note" := by
    decide +kernel
  have hnone : ((deskStart.after (deskSteps.take 2)).turn deskSteps[2]).answer.toOption.isNone :=
    by decide +kernel
  obtain ⟨e, he⟩ := toOption_eq_none_iff.mp (Option.isNone_iff_eq_none.mp hnone)
  have hsome : (deskStart.after (deskSteps.take 1)).session.template.isSome := by
    rw [← Option.isSome_map, hnote]
    rfl
  obtain ⟨-, hsteps⟩ := session_history deskStart deskSteps
  obtain ⟨-, -, -, hsnapshot⟩ := hsteps (deskSteps.take 1) .snapshot (deskSteps.drop 2) rfl
  obtain ⟨-, hkept, -⟩ := hsteps (deskSteps.take 2) deskSteps[2] (deskSteps.drop 3) rfl
  exact ⟨hletter, hnote, hsnapshot rfl hsome, ⟨e, he⟩, hkept e he⟩

end Paperwork
