import Paperwork.Session.Basic
import Paperwork.Text.Blank

/-!
# Configurations

A configuration names the policy of a session; without one the policy is strict.
-/

namespace Paperwork.Policy

open Paperwork.Tree

/-- The policies in their order. -/
def all : List Policy := [strict, relaxed]

/-- The policy of a variant's position. -/
def ofTree? (t : Tree) : Except DecodeError Policy := do
  match ← t.variant? Json.reading (all.map word) with
  | 0 => pure strict
  | _ => pure relaxed

/-- The policy that a configuration asks for. -/
def ofConfig (text : String) : Except SessionError Policy :=
  if isBlankText text then .ok strict
  else match Json.read text.toUTF8 with
    | .error e => .error (.config e.message)
    | .ok t =>
      let policy := do
        let slots ← t.slots? Json.reading [["policy"]]
        givenOr strict ofTree? (slot slots 0)
      policy.mapError fun e => .config e.message

end Paperwork.Policy
