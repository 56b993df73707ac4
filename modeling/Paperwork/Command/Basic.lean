import Paperwork.Csv
import Paperwork.Session.Request
import Paperwork.Text.Quoted

/-!
# Commands

What can be asked for on a command line, and why it may fail. A command has complaints of its own;
other failures come from what it works with.
-/

namespace Paperwork

/-- What is asked for. -/
inductive Command where
  | describe (template : String) (input : Option String) (format : FormFormat)
  | definitionSchema
  | inputSchema (template : String)
  | sampleInput (template : String)
  | evaluate (template input : String)
  | generate (template input : String) (directory : Option String) (policy : Policy)
  | batch (template sheet : String) (directory : Option String)
deriving DecidableEq, Repr

namespace Command

/-- The package that a command works with. -/
def template? : Command → Option String
  | describe template _ _ => some template
  | definitionSchema => none
  | inputSchema template => some template
  | sampleInput template => some template
  | evaluate template _ => some template
  | generate template _ _ _ => some template
  | batch template _ _ => some template

/-- The file that a command reads besides. -/
def input? : Command → Option String
  | describe _ input _ => input
  | evaluate _ input => some input
  | generate _ input _ _ => some input
  | batch _ sheet _ => some sheet
  | _ => none

/-- The directory that a command asks to write to. -/
def directory? : Command → Option String
  | generate _ _ directory _ => directory
  | batch _ _ directory => directory
  | _ => none

end Command

/-- What is wrong with the arguments of a command line. -/
inductive UsageError where
  | missingCommand
  | unexpected (argument : String)
  | missingValue (option : String)
  | invalidValue (option value : String)
  | uselessValue (option : String)
  | repeated (option : String)
  | missingOption (option : String)
deriving DecidableEq, Repr

/-- The wording of a fault. -/
def UsageError.message : UsageError → String
  | missingCommand => "a command is missing"
  | unexpected argument => "unexpected argument '" ++ argument ++ "'"
  | missingValue option => "a value is missing for '--" ++ option ++ "'"
  | invalidValue option value => "invalid value '" ++ value ++ "' for '--" ++ option ++ "'"
  | uselessValue option => "'--" ++ option ++ "' takes no value"
  | repeated option => "'--" ++ option ++ "' is given twice"
  | missingOption option => "'--" ++ option ++ "' is missing"

/-- What a command itself complains about. -/
inductive Complaint where
  | notAnObject (path : String)
  | undescribed (cause : SessionError)
  | rejectedFields (count : Nat)
  | nothingGenerated (rejected : Nat)
  | failedDocuments (count : Nat)
  | failedRows (failed rows : Nat)
  | emptyDirectory
deriving DecidableEq, Repr

/-- The wording of a complaint. -/
def Complaint.message : Complaint → String
  | notAnObject path => path ++ " must contain a JSON object"
  | undescribed cause => cause.message
  | rejectedFields count => toString count ++ " field(s) rejected"
  | nothingGenerated rejected => toString rejected ++ " field(s) rejected; no documents generated"
  | failedDocuments count => toString count ++ " document(s) failed"
  | failedRows failed rows => toString failed ++ " of " ++ toString rows ++ " row(s) failed"
  | emptyDirectory => "output directory cannot be empty"

/-- Why a command line fails. -/
inductive CommandError where
  | usage (cause : UsageError)
  | complaint (cause : Complaint)
  | disk (cause : DiskError)
  | encoding (path : String)
  | json (reason : String)
  | package (cause : PackageError)
  | session (cause : SessionError)
  | sheet (cause : Csv.Fault)
deriving DecidableEq, Repr

namespace CommandError

/-- What is reported of a failure. A complaint is reported between quotes. -/
def report : CommandError → String
  | usage cause => cause.message
  | complaint cause => Text.quoted cause.message
  | disk cause => cause.message
  | encoding path => path ++ " is not UTF-8 text"
  | json reason => reason
  | package cause => cause.message
  | session cause => cause.message
  | sheet cause => cause.message

/-- The exit status of a failure: misuse is told from the rest. -/
def status : CommandError → Nat
  | usage _ => 2
  | _ => 1

end CommandError

end Paperwork
