import Paperwork.Template.Basic

/-!
# Fetching payloads

The documents of a template receive their payloads in the order of declaration. Those that have one
are not asked for again, and the first failure ends the run. What fetches the payloads can change a
state of its own with every call.
-/

namespace Paperwork

/-- A way to fetch the payload of a name that changes a state of its own. -/
abbrev StatefulFetch (σ ε : Type) := String → σ → Except ε ByteArray × σ

/-- What a run of fetching leads to: the documents, the state, and the failure if any. -/
structure Fetched (σ ε : Type) where
  documents : List Document
  state : σ
  failure : Option ε

/-- Fetches the payloads of the documents that have none. -/
def fetchPayloads {σ ε : Type} (fetch : StatefulFetch σ ε) : List Document → σ → Fetched σ ε
  | [], state => ⟨[], state, none⟩
  | d :: rest, state =>
    if d.isLoaded then
      let others := fetchPayloads fetch rest state
      { others with documents := d :: others.documents }
    else match fetch d.name state with
      | (.error e, state) => ⟨d :: rest, state, some e⟩
      | (.ok bytes, state) =>
        let others := fetchPayloads fetch rest state
        { others with documents := (d.attach bytes).1 :: others.documents }

/-- Fetches without a state of its own, and keeps the names that are asked for. -/
def recording {ε : Type} (fetch : String → Except ε ByteArray) : StatefulFetch (List String) ε :=
  fun name asked => (fetch name, asked ++ [name])

namespace Template

/-- A template after a run of fetching, with the state after it and the failure if any. -/
def attachPayloadsIn {σ ε : Type} (t : Template) (fetch : StatefulFetch σ ε) (state : σ) :
    Template × σ × Option ε :=
  let fetched := fetchPayloads fetch t.documents state
  ({ t with documents := fetched.documents }, fetched.state, fetched.failure)

/-- A template after a run of fetching, with the names asked for and the failure if any. -/
def attachPayloads {ε : Type} (t : Template) (fetch : String → Except ε ByteArray) :
    Template × List String × Option ε :=
  t.attachPayloadsIn (recording fetch) []

/-- A template with all its payloads, if none of them fails to be fetched. -/
def loaded? {ε : Type} (t : Template) (fetch : String → Except ε ByteArray) : Except ε Template :=
  match t.attachPayloads fetch with
  | (_, _, some e) => .error e
  | (full, _, none) => .ok full

end Template

end Paperwork
