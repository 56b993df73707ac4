import Paperwork.Proofs.Template.WellFormed
import Paperwork.Template.Payload

/-!
# Payloads over time

Payloads are offered to the documents of a template one by one, or fetched for all documents that
miss one (`PayloadStep`). A document takes the first payload that it is offered and never another
one (`Supply.documents_after`). Fetching asks for what is missing in the order of declaration and
ends with the first name that fails, where the next fetching starts again (`asksFor_fetchPayloads`);
each call finds the state that the one before it left, so that a record of the names in this state
has every call (`asked_attachPayloads`). Together this is what any number of steps does to a
template (`payloads_are_written_once`).
-/

namespace Paperwork

variable {σ ε : Type} {fetch : StatefulFetch σ ε} {state : σ} {d : Document} {ds : List Document}

/-! ## One document -/

namespace Document

/-- A document after an offer, if there is one. A payload that is there already stays. -/
def receive (d : Document) (offer : Option ByteArray) : Document :=
  { d with contents := d.contents.or offer }

theorem attach_eq (d : Document) (bytes : ByteArray) :
    d.attach bytes = (d.receive (some bytes), !d.isLoaded) := by
  obtain ⟨name, outFile, conditions, contents⟩ := d
  cases contents <;> rfl

@[simp] theorem receive_none (d : Document) : d.receive none = d := by
  simp [receive]

@[simp] theorem name_receive (d : Document) (offer : Option ByteArray) :
    (d.receive offer).name = d.name := rfl

theorem receive_of_isLoaded (h : d.isLoaded) (offer : Option ByteArray) : d.receive offer = d := by
  obtain ⟨payload, hpayload⟩ := Option.isSome_iff_exists.mp h
  rw [receive, hpayload, Option.some_or, ← hpayload]

theorem receive_receive (d : Document) (offer later : Option ByteArray) :
    (d.receive offer).receive later = d.receive (offer.or later) := by
  simp [receive, Option.or_assoc]

theorem isLoaded_receive (d : Document) (offer : Option ByteArray) :
    (d.receive offer).isLoaded = (d.isLoaded || offer.isSome) := by
  cases hcontents : d.contents <;> simp [receive, isLoaded, hcontents]

end Document

theorem map_name_receive (ds : List Document) (offer : Document → Option ByteArray) :
    (ds.map fun d => d.receive (offer d)).map (·.name) = ds.map (·.name) := by
  rw [List.map_map]
  rfl

/-! ## Fetching -/

/-- The names of the documents without a payload, in the order of declaration. -/
def missingNames (ds : List Document) : List String :=
  (ds.filter fun d => !d.isLoaded).map (·.name)

theorem missingNames_cons_of_isLoaded (h : d.isLoaded) :
    missingNames (d :: ds) = missingNames ds := by
  simp [missingNames, h]

theorem missingNames_cons_of_not_isLoaded (h : d.isLoaded = false) :
    missingNames (d :: ds) = d.name :: missingNames ds := by
  simp [missingNames, h]

theorem missingNames_sublist (ds : List Document) :
    (missingNames ds).Sublist (ds.map (·.name)) :=
  List.filter_sublist.map _

/-- The calls that asking for names in turn makes, up to the first one that fails. -/
def calls (fetch : StatefulFetch σ ε) : List String → σ → List (String × Except ε ByteArray)
  | [], _ => []
  | name :: names, state =>
    match fetch name state with
    | (.error e, _) => [(name, .error e)]
    | (.ok bytes, state) => (name, .ok bytes) :: calls fetch names state

/-- The payload that calls have for a name. -/
def answer? (asked : List (String × Except ε ByteArray)) (name : String) : Option ByteArray :=
  (asked.lookup name).bind Except.toOption

/--
Names are asked for in turn, each in the state that the call before it left: all of them if none
fails, and else those up to the first one that fails. From this one on they are left.
-/
inductive AsksFor (fetch : StatefulFetch σ ε) : (names : List String) → (state : σ) →
    (asked : List (String × Except ε ByteArray)) → (failure : Option ε) → (left : List String) →
    (after : σ) → Prop
  | done (state : σ) : AsksFor fetch [] state [] none [] state
  | answered {name : String} {names left : List String} {state next after : σ} {bytes : ByteArray}
      {asked : List (String × Except ε ByteArray)} {failure : Option ε}
      (call : fetch name state = (.ok bytes, next))
      (rest : AsksFor fetch names next asked failure left after) :
      AsksFor fetch (name :: names) state ((name, .ok bytes) :: asked) failure left after
  | failed {name : String} {names : List String} {state next : σ} {e : ε}
      (call : fetch name state = (.error e, next)) :
      AsksFor fetch (name :: names) state [(name, .error e)] (some e) (name :: names) next

namespace AsksFor

variable {names left : List String} {asked : List (String × Except ε ByteArray)}
  {failure : Option ε} {after : σ}

theorem asked_front (h : AsksFor fetch names state asked failure left after) :
    asked.map Prod.fst <+: names := by
  induction h with
  | done => exact List.nil_prefix
  | answered call rest ih => exact List.cons_prefix_cons.mpr ⟨rfl, ih⟩
  | failed call => exact List.cons_prefix_cons.mpr ⟨rfl, List.nil_prefix⟩

/-- Where calls are recorded, each name is recorded that is asked for. -/
theorem recorded {source : String → Except ε ByteArray} {before after : List String}
    (h : AsksFor (recording source) names before asked failure left after) :
    after = before ++ asked.map Prod.fst := by
  induction h with
  | done before => exact (List.append_nil before).symm
  | answered call rest ih =>
    obtain ⟨-, rfl⟩ := Prod.mk.inj call
    rw [ih, List.append_assoc]
    rfl
  | failed call =>
    obtain ⟨-, rfl⟩ := Prod.mk.inj call
    rfl

end AsksFor

/-- The missing payloads are asked for, and no others; those that are left are missing still. -/
theorem asksFor_fetchPayloads (fetch : StatefulFetch σ ε) (ds : List Document) (state : σ) :
    AsksFor fetch (missingNames ds) state (calls fetch (missingNames ds) state)
      (fetchPayloads fetch ds state).failure
      (missingNames (fetchPayloads fetch ds state).documents)
      (fetchPayloads fetch ds state).state := by
  induction ds generalizing state with
  | nil => exact .done state
  | cons d rest ih =>
    rw [fetchPayloads]
    cases hloaded : d.isLoaded with
    | true =>
      rw [if_pos rfl, missingNames_cons_of_isLoaded hloaded, missingNames_cons_of_isLoaded hloaded]
      exact ih state
    | false =>
      rw [if_neg Bool.false_ne_true, missingNames_cons_of_not_isLoaded hloaded, calls]
      rcases hcall : fetch d.name state with ⟨answer, next⟩
      cases answer with
      | error e =>
        dsimp only
        rw [missingNames_cons_of_not_isLoaded hloaded]
        exact .failed hcall
      | ok bytes =>
        have hattached : (d.attach bytes).1.isLoaded := by
          rw [Document.attach_eq, Document.isLoaded_receive]
          simp
        dsimp only
        rw [missingNames_cons_of_isLoaded hattached]
        exact .answered hcall (ih next)

@[simp] theorem answer?_cons_self (name : String) (answer : Except ε ByteArray)
    (asked : List (String × Except ε ByteArray)) :
    answer? ((name, answer) :: asked) name = answer.toOption := by
  rw [answer?, List.lookup_cons_self, Option.bind_some]

theorem answer?_cons_of_ne {name other : String} (h : name ≠ other) (answer : Except ε ByteArray)
    (asked : List (String × Except ε ByteArray)) :
    answer? ((other, answer) :: asked) name = answer? asked name := by
  rw [answer?, List.lookup_cons, beq_false_of_ne h]
  rfl

/-- A record of what is asked for has the names of the calls. -/
theorem asked_attachPayloads (t : Template) (source : String → Except ε ByteArray) :
    (t.attachPayloads source).2.1 =
      (calls (recording source) (missingNames t.documents) []).map Prod.fst :=
  (asksFor_fetchPayloads (recording source) t.documents []).recorded

/-- Documents receive what was fetched for them. -/
theorem documents_fetchPayloads (fetch : StatefulFetch σ ε) (h : (ds.map (·.name)).Nodup)
    (state : σ) :
    (fetchPayloads fetch ds state).documents =
      ds.map fun d => d.receive (answer? (calls fetch (missingNames ds) state) d.name) := by
  induction ds generalizing state with
  | nil => rfl
  | cons d rest ih =>
    rw [List.map_cons, List.nodup_cons] at h
    obtain ⟨hd, hrest⟩ := h
    have hother : ∀ e ∈ rest, e.name ≠ d.name := by
      intro e he heq
      exact hd (heq ▸ List.mem_map_of_mem he)
    rw [fetchPayloads]
    cases hloaded : d.isLoaded with
    | true =>
      rw [if_pos rfl, missingNames_cons_of_isLoaded hloaded, List.map_cons,
        Document.receive_of_isLoaded hloaded, ← ih hrest]
    | false =>
      rw [if_neg Bool.false_ne_true, missingNames_cons_of_not_isLoaded hloaded, calls]
      rcases hcall : fetch d.name state with ⟨answer, next⟩
      cases answer with
      | error e =>
        -- the others are not asked for
        have hkept : ∀ x ∈ rest, x.receive (answer? [(d.name, .error e)] x.name) = x := by
          intro x hx
          rw [answer?_cons_of_ne (hother x hx)]
          exact Document.receive_none x
        dsimp only
        rw [List.map_cons, List.map_congr_left hkept, List.map_id', answer?_cons_self,
          Except.toOption, Document.receive_none]
      | ok bytes =>
        have hsame : ∀ x ∈ rest,
            x.receive (answer? ((d.name, .ok bytes) :: calls fetch (missingNames rest) next)
                x.name) =
              x.receive (answer? (calls fetch (missingNames rest) next) x.name) := by
          intro x hx
          rw [answer?_cons_of_ne (hother x hx)]
        dsimp only
        rw [List.map_cons, List.map_congr_left hsame, ← ih hrest, Document.attach_eq,
          answer?_cons_self, Except.toOption]

/-! ## Steps -/

/-- What is done about the payloads of a template in one step. -/
inductive PayloadStep (σ ε : Type) where
  | attach (name : String) (bytes : ByteArray)
  | fetch (fetch : StatefulFetch σ ε)

/-- A template with the state that fetching its payloads changes. -/
structure Supply (σ : Type) where
  template : Template
  state : σ

namespace Template

variable {t : Template}

/-- No two documents share a name. -/
def HasDistinctDocuments (t : Template) : Prop := (t.documents.map (·.name)).Nodup

theorem document?_of_mem (hdistinct : t.HasDistinctDocuments) (hd : d ∈ t.documents) :
    t.document? d.name = some d :=
  find?_name_of_mem hdistinct hd

end Template

namespace Supply

variable {s : Supply σ}

/-- What a step leads to. -/
def next (s : Supply σ) : PayloadStep σ ε → Supply σ
  | .attach name bytes =>
    { s with template := ((s.template.attach? name bytes).map Prod.fst).getD s.template }
  | .fetch fetch =>
    let (template, state, _) := s.template.attachPayloadsIn fetch s.state
    ⟨template, state⟩

/-- What steps in turn lead to. -/
def after (s : Supply σ) (steps : List (PayloadStep σ ε)) : Supply σ := steps.foldl next s

/-- The calls that fetching makes. -/
def calls (s : Supply σ) (fetch : StatefulFetch σ ε) : List (String × Except ε ByteArray) :=
  Paperwork.calls fetch (missingNames s.template.documents) s.state

/-- The payload that a step offers to the document of a name. -/
def offer? (s : Supply σ) (name : String) : PayloadStep σ ε → Option ByteArray
  | .attach n bytes => if n = name then some bytes else none
  | .fetch fetch => answer? (s.calls fetch) name

/-- The payloads that steps offer to the document of a name, in turn. -/
def offers (s : Supply σ) (name : String) : List (PayloadStep σ ε) → List ByteArray
  | [] => []
  | step :: rest => (s.offer? name step).toList ++ (s.next step).offers name rest

theorem attach?_of_mem (ε : Type) (hdistinct : s.template.HasDistinctDocuments)
    (hd : d ∈ s.template.documents) (bytes : ByteArray) :
    s.template.attach? d.name bytes =
      some ((s.next (.attach d.name bytes : PayloadStep σ ε)).template, !d.isLoaded) := by
  simp only [next, Template.attach?, Template.document?_of_mem hdistinct hd, Document.attach_eq,
    Option.map_some, Option.getD_some]

/-- A step offers every document at most one payload. -/
theorem documents_next (hdistinct : s.template.HasDistinctDocuments) (step : PayloadStep σ ε) :
    (s.next step).template.documents =
      s.template.documents.map fun d => d.receive (s.offer? d.name step) := by
  cases step with
  | attach name bytes =>
    rw [next, Template.attach?]
    cases hfound : s.template.document? name with
    | none =>
      have hkept : ∀ d ∈ s.template.documents,
          d.receive (s.offer? d.name (.attach name bytes : PayloadStep σ ε)) = d := by
        intro d hd
        have hne : name ≠ d.name := by
          rintro rfl
          rw [Template.document?_of_mem hdistinct hd] at hfound
          cases hfound
        rw [offer?, if_neg hne, Document.receive_none]
      rw [List.map_congr_left hkept, List.map_id']
      rfl
    | some e =>
      refine List.map_congr_left fun d hd => ?_
      by_cases hname : d.name = name
      · simp [offer?, hname, Document.attach_eq]
      · simp [offer?, hname, Ne.symm hname]
  | fetch fetch => exact documents_fetchPayloads fetch hdistinct s.state

theorem hasDistinctDocuments_next (h : s.template.HasDistinctDocuments) (step : PayloadStep σ ε) :
    (s.next step).template.HasDistinctDocuments := by
  rw [Template.HasDistinctDocuments, documents_next h, map_name_receive]
  exact h

/-! ## Steps in turn -/

theorem after_append (before rest : List (PayloadStep σ ε)) :
    s.after (before ++ rest) = (s.after before).after rest := List.foldl_append

/-- A document keeps the payload that it has, or else it takes the first one that it is offered. -/
theorem documents_after (hdistinct : s.template.HasDistinctDocuments)
    (steps : List (PayloadStep σ ε)) :
    (s.after steps).template.documents =
      s.template.documents.map fun d => d.receive (s.offers d.name steps).head? := by
  induction steps generalizing s with
  | nil => simp [after, offers]
  | cons step rest ih =>
    have hfirst : ∀ (offer : Option ByteArray) (later : List ByteArray),
        (offer.toList ++ later).head? = offer.or later.head? := by
      intro offer later
      cases offer <;> rfl
    show ((s.next step).after rest).template.documents = _
    rw [ih (hasDistinctDocuments_next hdistinct step), documents_next hdistinct, List.map_map]
    refine List.map_congr_left fun d _ => ?_
    rw [offers, hfirst, Function.comp_apply, Document.receive_receive, Document.name_receive]

theorem hasDistinctDocuments_after (h : s.template.HasDistinctDocuments)
    (steps : List (PayloadStep σ ε)) : (s.after steps).template.HasDistinctDocuments := by
  rw [Template.HasDistinctDocuments, documents_after h, map_name_receive]
  exact h

/-- A document with a payload stays as it is. -/
theorem mem_after_of_isLoaded (hdistinct : s.template.HasDistinctDocuments)
    (hd : d ∈ s.template.documents) (hloaded : d.isLoaded) (steps : List (PayloadStep σ ε)) :
    d ∈ (s.after steps).template.documents := by
  rw [documents_after hdistinct, List.mem_map]
  exact ⟨d, hd, Document.receive_of_isLoaded hloaded _⟩

theorem isReady_after_iff (hdistinct : s.template.HasDistinctDocuments)
    (steps : List (PayloadStep σ ε)) :
    (s.after steps).template.isReady ↔
      ∀ d ∈ s.template.documents, d.isLoaded ∨ s.offers d.name steps ≠ [] := by
  rw [Template.isReady, documents_after hdistinct, List.all_map, List.all_eq_true]
  refine forall₂_congr fun d _ => ?_
  rw [Function.comp_apply, Document.isLoaded_receive, Bool.or_eq_true, List.isSome_head?,
    ← List.isEmpty_eq_false_iff]

end Supply

/-! ## Templates of definitions -/

namespace Template

section

variable {t : Template} {definition : Definition} {s : Supply σ}

/-- A template starts with documents that differ in name and have no payload. -/
theorem documents_of_ofDefinition (h : ofDefinition definition = .ok t) :
    t.HasDistinctDocuments ∧ ∀ d ∈ t.documents, d.contents = none := by
  have hdocuments := (Definition.describes_of_ofDefinition h).documents
  constructor
  · rw [HasDistinctDocuments, map_eq_of_forall₂ (fun _ _ hx => hx.1) hdocuments]
    exact (Definition.wellFormed_of_ofDefinition h).documents_distinct
  · intro d hd
    obtain ⟨e, -, hdescribes⟩ := exists_left_of_forall₂ hdocuments hd
    exact hdescribes.2.2.2

/--
Whatever steps are taken, each document has the first payload that it was offered, and the template
is ready once every document was offered one. Of every step on the way the following holds: It
leaves documents that have a payload as they are, and a template that is ready. A payload for one
document is stored exactly if it is the first one that the document is offered, and asks for
nothing. Fetching asks once for each document that has none, in the order of declaration, up to the
first one that fails, whose failure is the answer; every call finds the state that the one before it
left. The documents before this one have what was fetched for them; all others are as they were, so
the one that failed is the first that is missing then.
-/
theorem payloads_are_written_once (h : ofDefinition definition = .ok s.template)
    (steps : List (PayloadStep σ ε)) :
    (s.after steps).template.documents = s.template.documents.map
        (fun d => { d with contents := (s.offers d.name steps).head? }) ∧
      ((s.after steps).template.isReady ↔
        ∀ d ∈ s.template.documents, s.offers d.name steps ≠ []) ∧
      ∀ before step rest, steps = before ++ step :: rest →
        (∀ d ∈ (s.after before).template.documents, d.isLoaded →
          d ∈ (s.after steps).template.documents) ∧
        ((s.after before).template.isReady → (s.after steps).template.isReady) ∧
        (∀ d ∈ s.template.documents, ∀ bytes, step = .attach d.name bytes →
          (s.after before).template.attach? d.name bytes = some
              ((s.after (before ++ [step])).template, (s.offers d.name before).isEmpty) ∧
            (s.after (before ++ [step])).state = (s.after before).state) ∧
        ∀ fetch, step = .fetch fetch → ∃ asked failure left,
          (s.after before).template.attachPayloadsIn fetch (s.after before).state =
            ((s.after (before ++ [step])).template, (s.after (before ++ [step])).state, failure) ∧
          AsksFor fetch (missingNames (s.after before).template.documents) (s.after before).state
            asked failure left (s.after (before ++ [step])).state ∧
          (asked.map Prod.fst).Nodup ∧
          (s.after (before ++ [step])).template.documents =
            (s.after before).template.documents.map (fun d => d.receive (answer? asked d.name)) ∧
          missingNames (s.after (before ++ [step])).template.documents = left := by
  obtain ⟨hdistinct, hblank⟩ := documents_of_ofDefinition h
  have hcontents : ∀ steps : List (PayloadStep σ ε), (s.after steps).template.documents =
      s.template.documents.map
        (fun d => { d with contents := (s.offers d.name steps).head? }) := by
    intro steps
    rw [Supply.documents_after hdistinct]
    refine List.map_congr_left fun d hd => ?_
    rw [Document.receive, hblank d hd, Option.none_or]
  refine ⟨hcontents steps, ?_, ?_⟩
  · rw [Supply.isReady_after_iff hdistinct]
    refine forall₂_congr fun d hd => ?_
    simp [Document.isLoaded, hblank d hd]
  rintro before step rest rfl
  have hbefore : (s.after before).template.HasDistinctDocuments :=
    Supply.hasDistinctDocuments_after hdistinct before
  have hlater : ∀ d ∈ (s.after before).template.documents, d.isLoaded →
      d ∈ (s.after (before ++ step :: rest)).template.documents := by
    intro d hd hloaded
    rw [Supply.after_append]
    exact Supply.mem_after_of_isLoaded hbefore hd hloaded _
  refine ⟨hlater, fun hready => ?_, ?_, ?_⟩
  · rw [Supply.after_append, Supply.isReady_after_iff hbefore]
    exact fun d hd => .inl (List.all_eq_true.mp hready d hd)
  · rintro d hd bytes rfl
    have hnow : { d with contents := (s.offers d.name before).head? } ∈
        (s.after before).template.documents := by
      rw [hcontents]
      exact List.mem_map_of_mem hd
    rw [Supply.after_append]
    refine ⟨(Supply.attach?_of_mem ε hbefore hnow bytes).trans ?_, rfl⟩
    cases s.offers d.name before <;> simp [Supply.after, Document.isLoaded]
  · rintro fetch rfl
    rw [Supply.after_append]
    have hasks := asksFor_fetchPayloads fetch (s.after before).template.documents
      (s.after before).state
    exact ⟨_, _, _, rfl, hasks,
      (hasks.asked_front.sublist.trans (missingNames_sublist _)).nodup hbefore,
      documents_fetchPayloads fetch hbefore _, rfl⟩

end

/-! ## Letters that arrive in turn -/

/-- An offer, a bill and a reminder, each for a client. -/
def mailing : Definition where
  name := "mailing"
  fields := [.field { name := "client" }]
  documents := [{ name := "offer", outFile := "client" }, { name := "bill", outFile := "client" },
    { name := "reminder", outFile := "client" }]

/-- The template of the mailing, before anything was asked for. -/
def mailingSupply : Supply (List String) where
  template := {
    name := "mailing"
    layout := [.field "client"]
    fields := [⟨"client", "client", none, .string, [], .text "", true, none, none, none⟩]
    derived := []
    documents := ["offer", "bill", "reminder"].map fun name =>
      { name, outFile := "client", conditions := .literal (.flag true) } }
  state := []

/-- A store that keeps the names that it is asked for, and has the reminder the second time. -/
def lateReminder : StatefulFetch (List String) String := fun name asked =>
  (if name = "reminder" ∧ name ∉ asked then .error name else .ok name.toUTF8, asked ++ [name])

/-- The bill comes first and is empty; the reminder is missing at first; the bill comes again. -/
def mailingSteps : List (PayloadStep (List String) String) := [
  .attach "bill" .empty, .fetch lateReminder, .attach "bill" ⟨#[66]⟩, .fetch lateReminder]

theorem mailing_is_written_once :
    ofDefinition mailing = .ok mailingSupply.template ∧
      (mailingSupply.after mailingSteps).template.documents.map (·.contents) =
        [some "offer".toUTF8, some .empty, some "reminder".toUTF8] ∧
      (mailingSupply.after mailingSteps).state = ["offer", "reminder", "reminder"] ∧
      (mailingSupply.after mailingSteps).template.isReady ∧
      (∃ next, (mailingSupply.after (mailingSteps.take 2)).template.attach? "bill" ⟨#[66]⟩ =
        some (next, false)) ∧
      ∃ next, (mailingSupply.after (mailingSteps.take 1)).template.attachPayloadsIn
          lateReminder [] = (next, ["offer", "reminder"], some "reminder") ∧
        missingNames next.documents = ["reminder"] := by
  have hmade : ofDefinition mailing = .ok mailingSupply.template := rfl
  obtain ⟨hdocuments, hready, hsteps⟩ := payloads_are_written_once hmade mailingSteps
  refine ⟨hmade, ?_, rfl, hready.mpr ?_, ?_, ?_⟩
  · rw [hdocuments]
    decide +kernel
  · simp only [mailingSupply, List.forall_mem_map]
    decide +kernel
  · obtain ⟨-, -, hattach, -⟩ := hsteps (mailingSteps.take 2) (.attach "bill" ⟨#[66]⟩)
      (mailingSteps.drop 3) rfl
    exact ⟨_, (hattach mailingSupply.template.documents[1] (by simp) ⟨#[66]⟩ rfl).1⟩
  · obtain ⟨-, -, -, hfetch⟩ := hsteps (mailingSteps.take 1) (.fetch lateReminder)
      (mailingSteps.drop 2) rfl
    obtain ⟨asked, failure, left, heq, -⟩ := hfetch _ rfl
    have hfailure : failure = some "reminder" := (congrArg (·.2.2) heq).symm
    rw [hfailure] at heq
    exact ⟨_, heq, by decide +kernel⟩

end Template

end Paperwork
