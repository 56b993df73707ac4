/-!
# Tags

A tag is the bytes of its full form. They need not be text, and they end before the first zero byte.
A tag that starts with an exclamation mark is the text's own.
-/

namespace Paperwork.Yaml

/-- A tag. -/
structure Tag where
  bytes : List UInt8
deriving DecidableEq, Repr

/-- What a tag says about its node. -/
inductive TagKind where
  | bool
  | integer
  | double
  | null
  /-- The text's own, by a name. -/
  | named
  /-- The text's own, but its bytes are no text. -/
  | unnamed
  /-- Any other tag. -/
  | foreign
deriving DecidableEq, Repr

namespace Tag

/-- The bytes before the first zero byte. -/
def untilZero (bytes : List UInt8) : List UInt8 := bytes.takeWhile (· != 0)

/-- The tag of a suffix behind what its handle stands for. -/
def ofParts (expansion suffix : List UInt8) : Tag := ⟨untilZero expansion ++ untilZero suffix⟩

/-- What a handle of two exclamation marks stands for. -/
def coreExpansion : List UInt8 := "tag:yaml.org,2002:".toUTF8.toList

/-- What a handle of one exclamation mark stands for. -/
def ownExpansion : List UInt8 := [33]

/-- What a tag says about its node. -/
def kind (t : Tag) : TagKind :=
  match String.fromUTF8? ⟨t.bytes.toArray⟩ with
  | some "tag:yaml.org,2002:bool" => .bool
  | some "tag:yaml.org,2002:int" => .integer
  | some "tag:yaml.org,2002:float" => .double
  | some "tag:yaml.org,2002:null" => .null
  | some _ => if t.bytes.head? == some 33 then .named else .foreign
  | none => if t.bytes.head? == some 33 then .unnamed else .foreign

end Tag

end Paperwork.Yaml
