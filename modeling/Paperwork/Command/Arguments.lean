import Paperwork.Command.Basic
import Paperwork.Text.Pieces

/-!
# Command lines

Options come before or behind the name of a command; those behind it are the command's own. An
option is given at most once in each of these places. Arguments are read in their order, so that a
request for help counts only if nothing is wrong before it.
-/

namespace Paperwork.CommandLine

/-- Why the arguments ask for no command. -/
inductive Stop where
  | help
  | version
  | misuse (cause : UsageError)
deriving DecidableEq, Repr

/-- What an option is: a request of its own, a flag, or the name of a value. -/
inductive Role where
  | request (stop : Stop)
  | flag
  | path
  | word (words : List String)

/-- Options by their names. -/
abbrev Options := List (String × Role)

/-- Options that are given with their values, the latest first. -/
abbrev Given := List (String × Option String)

namespace Given

/-- Adds an option that is not there yet. -/
def add (given : Given) (name : String) (value : Option String) : Except Stop Given :=
  if (given.lookup name).isSome then .error (.misuse (.repeated name))
  else .ok ((name, value) :: given)

/-- Adds an option with a value. A path is not empty. -/
def addValue (given : Given) (name : String) (role : Role) (value : String) :
    Except Stop Given :=
  let valid := match role with
    | .word words => words.contains value
    | _ => value != ""
  if valid then given.add name (some value) else .error (.misuse (.invalidValue name value))

/-- The value of an option. -/
def value? (given : Given) (name : String) : Option String := (given.lookup name).join

/-- The value of an option that may not be left out. -/
def need (given : Given) (name : String) : Except Stop String :=
  match given.value? name with
  | some value => .ok value
  | none => .error (.misuse (.missingOption name))

/-- Whether an option is given. -/
def has (given : Given) (name : String) : Bool := (given.lookup name).isSome

end Given

/-! ## Options -/

/-- The name behind two hyphens, and the value behind an equals sign. -/
def longOption? (argument : String) : Option (String × Option String) :=
  match argument.toList with
  | '-' :: '-' :: body => match splitFirst ['='] body with
    | some (name, value) => some (String.ofList name, some (String.ofList value))
    | none => some (String.ofList body, none)
  | _ => none

/-- The first letter behind one hyphen. -/
def shortOption? (argument : String) : Option String :=
  match argument.toList with
  | '-' :: c :: _ => some c.toString
  | _ => none

/-- Whether an argument is no option. A lone hyphen is none. -/
def isOperand (argument : String) : Bool :=
  argument == "-" || argument.toList.head? != some '-'

/-- The requests that a letter stands for. -/
def letters : List (String × String) := [("h", "help"), ("V", "version")]

/-- What a letter asks for among the options. -/
def letterStop (options : Options) (argument letter : String) : Stop :=
  match (letters.lookup letter).bind fun name => List.lookup name options with
  | some (.request stop) => stop
  | _ => .misuse (.unexpected argument)

/-- What an argument does: it is an option by itself, or wants a value, or is no option. -/
inductive Reading where
  | complete (given : Given)
  | wantsValue (name : String) (role : Role)
  | operand

/-- Reads an argument as an option. -/
def readOption (options : Options) (given : Given) (argument : String) : Except Stop Reading :=
  match longOption? argument, shortOption? argument with
  | some (name, attached), _ =>
    match List.lookup name options, attached with
    | none, _ => .error (.misuse (.unexpected argument))
    | some (.request stop), none => .error stop
    | some .flag, none => (given.add name none).map .complete
    | some .flag, some _ => .error (.misuse (.uselessValue name))
    | some (.request _), some _ => .error (.misuse (.uselessValue name))
    | some role, some value => (given.addValue name role value).map .complete
    | some role, none => .ok (.wantsValue name role)
  | none, some letter => .error (letterStop options argument letter)
  | none, none => .ok .operand

/-- Reads options up to the first argument that is none. Two hyphens stand at the end only. -/
def readOptions (options : Options) :
    Given → List String → Except Stop (Given × List String)
  | given, [] => .ok (given, [])
  | given, argument :: rest =>
    if argument == "--" then match rest with
      | [] => .ok (given, [])
      | next :: _ => .error (.misuse (.unexpected next))
    else match readOption options given argument with
      | .error stop => .error stop
      | .ok .operand => .ok (given, argument :: rest)
      | .ok (.complete given) => readOptions options given rest
      | .ok (.wantsValue name role) => match rest with
        | [] => .error (.misuse (.missingValue name))
        | value :: rest =>
          if isOperand value then
            match given.addValue name role value with
            | .error stop => .error stop
            | .ok given => readOptions options given rest
          else .error (.misuse (.missingValue name))

/-! ## Commands -/

/-- A command as it is called: its name, its options, and what they ask for. -/
structure Verb where
  name : String
  options : Options
  command : Given → Except Stop Command

/-- Options that stand everywhere. -/
def sharedOptions : Options := [("verbose", .flag), ("help", .request .help)]

/-- The commands. -/
def verbs : List Verb := [
  { name := "describe"
    options := [("template", .path), ("input", .path), ("format", .word ["text", "json"])]
    command := fun given => do
      let format := if given.value? "format" == some "json" then .json else .text
      pure (.describe (← given.need "template") (given.value? "input") format) },
  { name := "schema"
    options := [("template", .path), ("example", .flag)]
    command := fun given => match given.value? "template" with
      | some template =>
        .ok (if given.has "example" then .sampleInput template else .inputSchema template)
      | none =>
        if given.has "example" then .error (.misuse (.missingOption "template"))
        else .ok .definitionSchema },
  { name := "evaluate"
    options := [("template", .path), ("input", .path)]
    command := fun given => do
      pure (.evaluate (← given.need "template") (← given.need "input")) },
  { name := "generate"
    options := [("template", .path), ("input", .path), ("out", .path), ("allow-errors", .flag)]
    command := fun given => do
      let policy := if given.has "allow-errors" then .relaxed else .strict
      pure (.generate (← given.need "template") (← given.need "input") (given.value? "out")
        policy) },
  { name := "batch"
    options := [("template", .path), ("csv", .path), ("out", .path)]
    command := fun given => do
      pure (.batch (← given.need "template") (← given.need "csv") (given.value? "out")) }]

/-- The command that a name and the arguments behind it ask for. -/
def readCommand (name : String) (arguments : List String) : Except Stop Command :=
  match verbs.find? (·.name == name) with
  | none => .error (.misuse (.unexpected name))
  | some verb => do
    let (given, rest) ← readOptions (sharedOptions ++ verb.options) [] arguments
    match rest with
    | [] => verb.command given
    | a :: _ => .error (.misuse (.unexpected a))

/-- What follows the word for help: nothing, or the name of a command. -/
def readTopics : List String → Stop
  | [] => .help
  | [topic] =>
    if topic == "help" || verbs.any (·.name == topic) then .help
    else .misuse (.unexpected topic)
  | _ :: topic :: _ => .misuse (.unexpected topic)

/-- The command that arguments ask for. -/
def read (arguments : List String) : Except Stop Command := do
  let options := sharedOptions ++ [("version", .request .version)]
  match ← readOptions options [] arguments with
  | (_, []) => .error (.misuse .missingCommand)
  | (_, "help" :: topics) => .error (readTopics topics)
  | (_, name :: rest) => readCommand name rest

/-- What is printed when help is asked for. -/
def usage : List String :=
  ["Usage: docgen <COMMAND> [OPTIONS]", "", "Commands:"]
    ++ verbs.map fun verb =>
      "  " ++ verb.name ++ " ".intercalate ("" :: verb.options.map fun o => match o.2 with
        | .flag | .request _ => "[--" ++ o.1 ++ "]"
        | .path => "--" ++ o.1 ++ " <PATH>"
        | .word words => "--" ++ o.1 ++ " <" ++ "|".intercalate words ++ ">")

/-- What is printed when the version is asked for. -/
def versionLine : String := "docgen 0.1.0"

end Paperwork.CommandLine
