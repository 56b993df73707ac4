import Paperwork.Data.Dict
import Paperwork.Json.Printer
import Paperwork.Json.Reader

/-!
# Field values

A field or a derived value is a text, a flag or a list of texts. Raw input becomes a value by
`Value.ofRaw?`; input of any other shape is kept for display by `Value.echo`.
-/

namespace Paperwork

/-- The value of a field. -/
inductive Value where
  | text (s : String)
  | flag (b : Bool)
  | list (items : List String)
deriving DecidableEq, Repr, Inhabited

/-- Values under the names of their fields. -/
abbrev Fields := Dict Value

/-- The shape of a value. -/
inductive Kind where
  | text
  | flag
  | list
  | unsupported
deriving DecidableEq, Repr

/-- The word for a shape. -/
def Kind.word : Kind → String
  | text => "text"
  | flag => "boolean"
  | list => "list"
  | unsupported => "unsupported value"

namespace Value

/-- The value of a field that is left out. -/
def empty : Value := text ""

def kind : Value → Kind
  | text _ => .text
  | flag _ => .flag
  | list _ => .list

/-- Whether a condition on the value holds. -/
def isTruthy : Value → Bool
  | text s => s != ""
  | flag b => b
  | list items => !items.isEmpty

/-- Whether the value counts as no input. A flag never does. -/
def isEmpty : Value → Bool
  | text s => s == ""
  | flag _ => false
  | list items => items.isEmpty

def text? : Value → Option String
  | text s => some s
  | _ => none

/-- The text of a value; the items of a list are joined by commas. -/
def display : Value → String
  | text s => s
  | flag b => if b then "true" else "false"
  | list items => ",".intercalate items

/-- The items of an array of texts. -/
def textItems? : List Json → Option (List String)
  | [] => some []
  | .text s :: rest => (textItems? rest).map (s :: ·)
  | _ :: _ => none

/-- The value of raw input: a number counts as its text, absence and null as the empty text. -/
def ofRaw? : Option Json → Option Value
  | none => some empty
  | some .null => some empty
  | some (.text s) => some (text s)
  | some (.number n) => some (text n.text)
  | some (.bool b) => some (flag b)
  | some (.array items) => (textItems? items).map list
  | some (.object _) => none

/-- Raw input for display: its value, or its JSON text when it has none. -/
def echo (raw : Option Json) : Value :=
  match ofRaw? raw, raw with
  | some v, _ => v
  | none, some j => text j.compact
  | none, none => empty

/-- The JSON form of a value. -/
def toJson : Value → Json
  | text s => .text s
  | flag b => .bool b
  | list items => Json.texts items

/-- The value that a JSON form stands for. -/
def ofJson? : Json → Option Value
  | .text s => some (text s)
  | .bool b => some (flag b)
  | .array items => (textItems? items).map list
  | _ => none

/-- The value that a tree stands for. -/
def ofTree? (reading : Reading) (t : Tree) : Except DecodeError Value := do
  match ofJson? (← t.json? reading Json.levels) with
  | some v => .ok v
  | none => .error (.expected "a text, a boolean or a list of texts")

end Value

/-- The JSON object of fields. -/
def Fields.toJson (fields : Fields) : Json :=
  .object (fields.toList.map fun e => (e.1, e.2.toJson))

/-- Fields from the entries of a mapping; the last value given for a name stands. -/
def Fields.ofTree? (reading : Reading) : Tree → Except DecodeError Fields
  | .mapping entries => go entries .empty
  | _ => .error (.expected "a mapping")
where
  go : List (Tree × Tree) → Fields → Except DecodeError Fields
    | [], fields => .ok fields
    | (k, v) :: rest, fields => do
      let name ← k.text? reading
      let value ← Value.ofTree? reading v
      go rest (fields.insert name value)

end Paperwork
