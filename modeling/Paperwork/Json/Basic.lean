import Paperwork.Json.Number

/-!
# JSON values

A value in its free form: the members of an object stand in the order of their names, each name
once (`Json.Canonical`), so that two values with the same content are the same value.
-/

namespace Paperwork

/-- A JSON value. -/
inductive Json where
  | null
  | bool (b : Bool)
  | number (n : Number)
  | text (s : String)
  | array (items : List Json)
  | object (members : List (String × Json))
deriving Repr, Inhabited

namespace Json

/-- The first member of a name in a list of members. -/
def memberIn? (members : List (String × Json)) (name : String) : Option Json :=
  (members.find? (·.1 == name)).map (·.2)

/-- The member of an object. -/
def member? : Json → String → Option Json
  | object members, name => memberIn? members name
  | _, _ => none

def isNull : Json → Bool
  | null => true
  | _ => false

def isObject : Json → Bool
  | object _ => true
  | _ => false

def text? : Json → Option String
  | text s => some s
  | _ => none

def array? : Json → Option (List Json)
  | array items => some items
  | _ => none

/-- Enters a member at its place in the order of names, replacing the member that has its name. -/
def putMember (name : String) (value : Json) : List (String × Json) → List (String × Json)
  | [] => [(name, value)]
  | m :: rest =>
    if name < m.1 then (name, value) :: m :: rest
    else if name = m.1 then (name, value) :: rest
    else m :: putMember name value rest

/-- An object with its members put in order; the last member given for a name stands. -/
def objectOf (members : List (String × Json)) : Json :=
  object (members.foldl (fun done m => putMember m.1 m.2 done) [])

/-- An array of texts. -/
def texts (items : List String) : Json := array (items.map text)

/-- An optional text, `null` when absent. -/
def textOrNull : Option String → Json
  | some s => text s
  | none => null

/-- A natural as a number. -/
def count (n : Nat) : Json := number (.natural (UInt64.ofNat n))

/-- Members stand in the order of their names, each name once, at every level. -/
inductive Canonical : Json → Prop
  | null : Canonical null
  | bool (b : Bool) : Canonical (bool b)
  | number (n : Number) : Canonical (number n)
  | text (s : String) : Canonical (text s)
  | array {items : List Json} : (∀ i ∈ items, Canonical i) → Canonical (array items)
  | object {members : List (String × Json)} :
      members.Pairwise (fun a b => a.1 < b.1) → (∀ m ∈ members, Canonical m.2) →
      Canonical (object members)

end Json

end Paperwork
