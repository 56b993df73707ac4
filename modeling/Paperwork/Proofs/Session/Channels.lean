import Paperwork.Proofs.Outcome
import Paperwork.Session.Channel

/-!
# What channels ask for

Each channel has requests of its own (`Request.channel_of_ofText`), so a payload can make a session
load a template, or change the disk, on no channel but the one that is there for it.
-/

namespace Paperwork

/-- The channel that a request is made on. -/
def Request.channel : Request → Channel
  | .loadPackage _ | .loadDefinition _ => .loadTemplate
  | .evaluate _ => .evaluateTemplate
  | .generateFields _ _ | .generateInput _ _ => .generateDocuments
  | .describe _ _ => .describeTemplate

namespace Channel

variable {α : Type} {c : Channel} {payload : String} {decode : Tree → Except DecodeError α}

theorem read_eq_ok_iff {a : α} :
    c.read payload decode = .ok a ↔ ∃ t, payloadTree payload = .ok t ∧ decode t = .ok a := by
  unfold read
  cases payloadTree payload with
  | error reason => simp
  | ok t => simp [mapError_eq_ok_iff]

/-- A payload that is well formed is read by its decoder, and a failure names the channel. -/
theorem read_of_payloadTree {t : Tree} (h : payloadTree payload = .ok t) :
    c.read payload decode = (decode t).mapError fun e => .request c.name e.message := by
  rw [read, h]

theorem ofName?_name (c : Channel) : ofName? c.name = some c := by
  cases c <;> rfl

theorem name_inj {c' : Channel} : c.name = c'.name ↔ c = c' := by
  constructor
  · intro h
    have hread := congrArg ofName? h
    rw [ofName?_name, ofName?_name] at hread
    exact Option.some.inj hread
  · exact congrArg name

theorem name_of_ofName? {name : String} (h : ofName? name = some c) : c.name = name := by
  simpa using List.find?_some h

end Channel

namespace Request

variable {r : Request} {t : Tree}

theorem channel_of_ofLoad (h : ofLoad t = .ok r) : r.channel = .loadTemplate := by
  unfold ofLoad at h
  rw [bind_eq_ok_iff] at h
  obtain ⟨-, -, h⟩ := h
  split at h
  · cases h
    rfl
  · simp only [bind_eq_ok_iff, pure_eq_ok_iff] at h
    obtain ⟨-, -, -, -, rfl⟩ := h
    rfl

theorem channel_of_ofEvaluate (h : ofEvaluate t = .ok r) : r.channel = .evaluateTemplate := by
  simp only [ofEvaluate, bind_eq_ok_iff, pure_eq_ok_iff] at h
  obtain ⟨-, -, -, -, rfl⟩ := h
  rfl

theorem channel_of_ofDescribe (h : ofDescribe t = .ok r) : r.channel = .describeTemplate := by
  simp only [ofDescribe, bind_eq_ok_iff, pure_eq_ok_iff] at h
  obtain ⟨-, -, -, -, -, -, rfl⟩ := h
  rfl

theorem channel_of_request {c : Channel} {payload : String} (h : c.request payload = .ok r) :
    r.channel = c := by
  cases c with
  | loadTemplate =>
    obtain ⟨t, -, ht⟩ := Channel.read_eq_ok_iff.mp h
    exact channel_of_ofLoad ht
  | evaluateTemplate =>
    obtain ⟨t, -, ht⟩ := Channel.read_eq_ok_iff.mp h
    exact channel_of_ofEvaluate ht
  | describeTemplate =>
    obtain ⟨t, -, ht⟩ := Channel.read_eq_ok_iff.mp h
    exact channel_of_ofDescribe ht
  | generateDocuments =>
    rw [Channel.request] at h
    split at h
    · cases h
    · cases h
      rfl
    · cases h
      rfl
    · cases h

theorem ofText_name (c : Channel) (payload : String) :
    ofText c.name payload = c.request payload := by
  rw [ofText, Channel.ofName?_name]

/-- What a payload asks for on a channel is a request of this channel. -/
theorem channel_of_ofText {name payload : String} (h : ofText name payload = .ok r) :
    r.channel.name = name := by
  unfold ofText at h
  split at h
  · rename_i c hc
    rw [channel_of_request h, Channel.name_of_ofName? hc]
  · cases h

end Request

end Paperwork
