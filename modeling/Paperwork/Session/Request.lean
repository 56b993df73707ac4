import Paperwork.Session.Basic
import Paperwork.Text.Blank

/-!
# Requests

A request is a channel with a JSON payload; a payload without text stands for an empty object. What
a payload asks for is settled before anything is done.
-/

namespace Paperwork

open Paperwork.Tree

/-- How a form is shown. -/
inductive FormFormat where
  | json
  | text
deriving DecidableEq, Repr

/-- The names of the formats, in their order. -/
def FormFormat.names : List String := ["json", "text"]

/-- What a payload asks for. -/
inductive Request where
  | loadPackage (path : String)
  | loadDefinition (d : Definition)
  | evaluate (input : Json)
  | generateFields (fields : Fields) (directory : String)
  | generateInput (input : Json) (directory : String)
  | describe (input : Option Json) (format : FormFormat)

/-- The channels of a session. -/
inductive Channel where
  | loadTemplate
  | evaluateTemplate
  | generateDocuments
  | describeTemplate
deriving DecidableEq, Repr

namespace Channel

/-- All channels. -/
def all : List Channel := [loadTemplate, evaluateTemplate, generateDocuments, describeTemplate]

/-- The name of a channel. -/
def name : Channel → String
  | loadTemplate => "load-template"
  | evaluateTemplate => "evaluate-template"
  | generateDocuments => "generate-documents"
  | describeTemplate => "describe-template"

/-- The channel of a name. -/
def ofName? (name : String) : Option Channel := all.find? (·.name == name)

end Channel

/-! ## Payloads -/

/-- The tree of a JSON text, or of an empty object for a text of blanks. -/
def payloadTree (text : String) : Except String Tree :=
  (Json.read (if isBlankText text then "\x7b\x7d" else text).toUTF8).mapError (·.message)

/-- Reads a JSON value inside of a payload. -/
def innerJson (t : Tree) : Except DecodeError Json := t.json? Json.reading (Json.levels - 1)

/-- The one value of a record's only field that counts; only a mapping will do. -/
def soleField? (name : String) : Tree → Except DecodeError Tree
  | .mapping entries => do
    given name .ok (slot (← slots? .stored [[name]] (.mapping entries)) 0)
  | _ => .error (.expected "a mapping")

/-- A load by path if there is one, else by definition. The payload is stored as a whole before. -/
def Request.ofLoad (t : Tree) : Except DecodeError Request := do
  t.requireSound Json.levels
  match soleField? "path" t >>= text? .stored with
  | .ok path => pure (.loadPackage path)
  | .error _ => do
    let d ← soleField? "definition" t
    pure (.loadDefinition (← Definition.ofTree? .stored Json.levels d))

/-- The input of an evaluation, null if left out. -/
def Request.ofEvaluate (t : Tree) : Except DecodeError Request := do
  let slots ← t.slots? Json.reading [["input"]]
  pure (.evaluate (← givenOr .null innerJson (slot slots 0)))

/-- The fields or the input, and the directory. -/
def Request.ofGenerate (t : Tree) :
    Except DecodeError (Option Fields × Option Json × String) := do
  let slots ← t.slots? Json.reading [["fields"], ["input"], ["out_dir"]]
  let fields ← givenOrNone Json.reading (Fields.ofTree? Json.reading) (slot slots 0)
  let input ← givenOrNone Json.reading innerJson (slot slots 1)
  let directory ← given "out_dir" (text? Json.reading) (slot slots 2)
  pure (fields, input, directory)

/-- The format of a variant's position. -/
def FormFormat.ofTree? (t : Tree) : Except DecodeError FormFormat := do
  match ← t.variant? Json.reading names with
  | 0 => pure json
  | _ => pure text

/-- The input to show, if any, and the format. -/
def Request.ofDescribe (t : Tree) : Except DecodeError Request := do
  let slots ← t.slots? Json.reading [["input"], ["format"]]
  let input ← givenOrNone Json.reading innerJson (slot slots 0)
  pure (.describe input (← givenOr .json FormFormat.ofTree? (slot slots 1)))

/-- Reads a payload of a channel. -/
def Channel.read {α : Type} (c : Channel) (payload : String)
    (decode : Tree → Except DecodeError α) : Except SessionError α :=
  match payloadTree payload with
  | .error reason => .error (.request c.name reason)
  | .ok t => (decode t).mapError fun e => .request c.name e.message

/-- What a payload asks for on a channel. Fields win over an input. -/
def Channel.request (c : Channel) (payload : String) : Except SessionError Request :=
  match c with
  | loadTemplate => c.read payload Request.ofLoad
  | evaluateTemplate => c.read payload Request.ofEvaluate
  | describeTemplate => c.read payload Request.ofDescribe
  | generateDocuments =>
    match c.read payload Request.ofGenerate with
    | .error e => .error e
    | .ok (some fields, _, directory) => .ok (.generateFields fields directory)
    | .ok (none, some input, directory) => .ok (.generateInput input directory)
    | .ok (none, none, _) => .error .missingParameter

/-- What a payload asks for on the channel of a name. -/
def Request.ofText (channel payload : String) : Except SessionError Request :=
  match Channel.ofName? channel with
  | some c => c.request payload
  | none => .error (.unknownChannel channel)

end Paperwork
