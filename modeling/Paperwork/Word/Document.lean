import Paperwork.Archive.Reader
import Paperwork.Archive.Writer
import Paperwork.Pattern.Size
import Paperwork.Word.Placeholder

/-!
# Word documents

A Word document is an archive. Placeholders are replaced in its body, headers and footers; all other
members are kept as they are.
-/

namespace Paperwork

/-- Why a document cannot be filled. -/
inductive RenderError where
  | unresolved (name : String)
  | archive (cause : Archive.Fault)
  | encoding (part : String)
  | delimiters
deriving DecidableEq, Repr

/-- The wording of a failure. -/
def RenderError.message : RenderError → String
  | unresolved name => "unresolved placeholder `" ++ name ++ "`"
  | archive cause => "malformed document archive: " ++ cause.message
  | encoding part => "document part `" ++ part ++ "` is not valid UTF-8 text"
  | delimiters => "invalid delimiters: they are too long"

/-- A way to fill a document with values. -/
abbrev Renderer := ByteArray → Fields → Delimiters → Except RenderError ByteArray

/-- A placeholder as a pattern: as few characters as possible between the delimiters. -/
def Delimiters.pattern (d : Delimiters) : Pattern.Node :=
  let mark (s : String) : Pattern.Node := if s.isEmpty then .empty else .text s.toList
  let inside := Pattern.Node.capture 1 none (.repeated (.ofSet .all) 0 none false)
  .join [mark d.start, inside, mark d.stop]

namespace Word

/-- Whether a text starts with another one. -/
def hasStart (s start : String) : Bool := start.toList.isPrefixOf s.toList

/-- The parts that hold text: the body, headers and footers. -/
def isTextPart (name : String) : Bool :=
  name == "word/document.xml"
    || (".xml".toList.isSuffixOf name.toList
      && (hasStart name "word/header" || hasStart name "word/footer"))

/-- The text of a member. -/
def partText? (m : Archive.Member) : Option String :=
  match m.contents? with
  | .ok bytes => String.fromUTF8? bytes
  | .error _ => none

/-- Fills a member that holds text; all others stay as they are. -/
def fillMember (d : Delimiters) (fields : Fields) (m : Archive.Member) :
    Except RenderError Archive.Member :=
  if !isTextPart m.name then .ok m
  else match partText? m with
    | none => .error (.encoding m.name)
    | some text => match Placeholder.substitute d fields text.toList with
      | .error name => .error (.unresolved name)
      | .ok filled =>
        if m.method.isWritten then
          .ok (Archive.Entry.pack ⟨m.name, m.method, (String.ofList filled).toUTF8⟩)
        else .error (.archive .unknownMethod)

/-- Opens and fills members in turn. -/
def fillAll (d : Delimiters) (fields : Fields) (a : Archive) :
    List Archive.Listing → Except RenderError (List Archive.Member)
  | [] => .ok []
  | l :: rest => do
    let m ← (a.open? l).mapError .archive
    let filled ← fillMember d fields m
    let others ← fillAll d fields a rest
    pure (filled :: others)

/-- Fills a Word document. -/
def render : Renderer := fun document fields d =>
  if d.pattern.isTooLarge then .error .delimiters
  else match Archive.ofBytes? document with
    | .error cause => .error (.archive cause)
    | .ok a => (fillAll d fields a a.listings).map Archive.write

end Word

end Paperwork
