import Paperwork.Unicode.CodeSet
import Paperwork.Unicode.Table.Category
import Paperwork.Unicode.Table.Binary
import Paperwork.Unicode.Table.Script
import Paperwork.Unicode.Table.Extension
import Paperwork.Unicode.Table.Age
import Paperwork.Unicode.Table.Break

/-!
# Properties of code points by name

Names are compared loosely: capitals, blanks, hyphens, underscores and a leading "is" do not
matter. A bare name is a yes-or-no property, a general category or a script; a name with a value
picks a category, a script, the characters used with a script, those assigned up to a version, or
those that take part in the boundaries of graphemes, words or sentences in one way.
-/

namespace Paperwork.Unicode

/-- The loose form of a name. Only "isc" keeps its beginning, since "c" alone means another. -/
def looseName (name : String) : String :=
  let cs := name.toList
  let stripped := match cs with
    | i :: s :: rest => if (i == 'i' || i == 'I') && (s == 's' || s == 'S') then some rest else none
    | _ => none
  let keep (cs : List Char) : String := String.ofList ((cs.filter fun c =>
    c != ' ' && c != '_' && c != '-' && c.val < 128).map Char.toLower)
  match stripped with
  | none => keep cs
  | some rest => if keep rest == "c" then "isc" else keep rest

/-- The set of a row of a table. -/
def find? (rows : List (List String × List String)) (name : String) : Option CodeSet :=
  (rows.find? (·.1.contains name)).map fun row => CodeSet.ofPacked row.2

/-- Categories that are unions of others, with the list of their parts. -/
def categoryGroups : List (List String × List String) := [
  (["l", "letter"], ["lu", "ll", "lt", "lm", "lo"]),
  (["lc", "casedletter"], ["lu", "ll", "lt"]),
  (["m", "mark", "combiningmark"], ["mn", "mc", "me"]),
  (["n", "number"], ["nd", "nl", "no"]),
  (["p", "punctuation", "punct"], ["pc", "pd", "ps", "pe", "pi", "pf", "po"]),
  (["s", "symbol"], ["sm", "sc", "sk", "so"]),
  (["z", "separator"], ["zs", "zl", "zp"]),
  (["c", "other"], ["cc", "cf", "co", "cn"])]

/-- A general category, or all, assigned or ASCII code points. -/
def category? (name : String) : Option CodeSet :=
  if name == "any" then some .all
  else if name == "ascii" then some (.range 0 127)
  else if name == "assigned" then (find? (Table.categories ()) "cn").map (·.complement)
  else match categoryGroups.find? (·.1.contains name) with
    | some group => some (.unions (group.2.filterMap (find? (Table.categories ()))))
    | none => find? (Table.categories ()) name

def script? (name : String) : Option CodeSet := find? (Table.scripts ()) name

/-- The code points that a version of the standard or an earlier one assigned. -/
def age? (name : String) : Option CodeSet :=
  let rows := Table.ages ()
  (rows.findIdx? (·.1.contains name)).map fun i =>
    .unions ((rows.take (i + 1)).map fun row => .ofPacked row.2)

/--
The code points that a bare name means. Three abbreviations that a property shares with a category
or script mean the latter.
-/
def named? (name : String) : Option CodeSet :=
  let name := looseName name
  let binary :=
    if name == "cf" || name == "sc" || name == "lc" then none
    else find? (Table.binaries ()) name
  binary <|> category? name <|> script? name

/-- The code points for which a property has a value. -/
def valued? (property value : String) : Option CodeSet :=
  let value := looseName value
  match looseName property with
  | "gc" | "generalcategory" => category? value
  | "sc" | "script" => script? value
  | "scx" | "scriptextensions" => find? (Table.extensions ()) value
  | "age" => age? value
  | "gcb" | "graphemeclusterbreak" => find? (Table.graphemeBreaks ()) value
  | "wb" | "wordbreak" => find? (Table.wordBreaks ()) value
  | "sb" | "sentencebreak" => find? (Table.sentenceBreaks ()) value
  | _ => none

/-- A yes-or-no property that the tables hold. -/
def binary (name : String) : CodeSet := (find? (Table.binaries ()) name).getD .empty

/-- Characters of words: alphabetic ones, marks, decimal digits, connectors and joiners. -/
def wordCodes : CodeSet :=
  .unions [binary "alphabetic", (category? "m").getD .empty, (category? "nd").getD .empty,
    (category? "pc").getD .empty, binary "joincontrol"]

/-- Decimal digits. -/
def digitCodes : CodeSet := (category? "nd").getD .empty

/-- Blank characters. -/
def blankCodes : CodeSet := binary "whitespace"

end Paperwork.Unicode
