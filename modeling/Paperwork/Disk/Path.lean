import Paperwork.Text.Pieces

/-!
# Paths

A path is a text of components between slashes. Empty components and single dots say nothing new;
two dots lead to the directory above.
-/

namespace Paperwork.Path

/-- The components of a path as they are written. -/
def components (path : String) : List String :=
  (splitAll ['/'] path.toList).map String.ofList

/-- Whether a path starts at the root. -/
def isAbsolute (path : String) : Bool := path.toList.head? == some '/'

/-- A path below another one; an absolute path stands for itself. -/
def join (base path : String) : String :=
  if isAbsolute path || base == "" then path
  else if base.toList.getLast? == some '/' then base ++ path
  else base ++ "/" ++ path

/-- Whether a component leads somewhere. -/
def isProper (component : String) : Bool := component != "" && component != "."

/-- The last component that leads somewhere, unless it leads up. -/
def fileName? (path : String) : Option String :=
  match ((components path).filter isProper).getLast? with
  | some name => if name == ".." then none else some name
  | none => none

end Paperwork.Path
