/-!
# Comma-separated values

A sheet is read byte by byte. Its first record names the columns; a later record is a row if it has
as many cells. A cell that starts with a quote runs to the next quote, where two quotes stand for
one; lines without a byte are no records.
-/

namespace Paperwork

namespace Csv

/-- The bytes of a cell. -/
abbrev Cell := List UInt8

/-- Where reading stands in a record. -/
inductive Place where
  | betweenRecords
  | cellStart
  | plain
  | quoted
  | afterQuote
deriving DecidableEq, Repr

/-- What is read so far, the latest first. -/
structure Progress where
  place : Place
  cell : Cell
  cells : List Cell
  records : List (List Cell)

namespace Progress

/-- Nothing is read. -/
def start : Progress := ⟨.betweenRecords, [], [], []⟩

/-- Ends the cell. -/
def endCell (p : Progress) : Progress :=
  { p with place := .cellStart, cell := [], cells := p.cell.reverse :: p.cells }

/-- Ends the cell and its record. -/
def endRecord (p : Progress) : Progress :=
  ⟨.betweenRecords, [], [], (p.cell.reverse :: p.cells).reverse :: p.records⟩

/-- Adds a byte to the cell. -/
def add (p : Progress) (place : Place) (b : UInt8) : Progress :=
  { p with place := place, cell := b :: p.cell }

end Progress

/-- Whether a byte ends a line. -/
def isLineEnd (b : UInt8) : Bool := b == 10 || b == 13

/-- The quote. -/
def quote : UInt8 := 34

/-- Reads a byte outside of quotes. -/
def readPlain (p : Progress) (b : UInt8) : Progress :=
  if b == 44 then p.endCell
  else if isLineEnd b then p.endRecord
  else p.add .plain b

/-- Reads a byte. -/
def readByte (p : Progress) (b : UInt8) : Progress :=
  match p.place with
  | .betweenRecords =>
    if isLineEnd b then p
    else if b == quote then { p with place := .quoted }
    else readPlain p b
  | .cellStart => if b == quote then { p with place := .quoted } else readPlain p b
  | .plain => readPlain p b
  | .quoted => if b == quote then { p with place := .afterQuote } else p.add .quoted b
  | .afterQuote => if b == quote then p.add .quoted b else readPlain p b

/-- The records; the end of the text ends the last one, even inside of quotes. -/
def Progress.finish (p : Progress) : List (List Cell) :=
  match p.place with
  | .betweenRecords => p.records.reverse
  | _ => p.endRecord.records.reverse

/-- The bytes behind a byte order mark. -/
def afterMark : List UInt8 → List UInt8
  | 0xEF :: 0xBB :: 0xBF :: rest => rest
  | bytes => bytes

/-- The records of a text. -/
def records (bytes : List UInt8) : List (List Cell) :=
  ((afterMark bytes).foldl readByte .start).finish

/-- Why a record is no row. -/
inductive Fault where
  | encoding
  | length (expected found : Nat)
deriving DecidableEq, Repr

/-- The wording of a fault. -/
def Fault.message : Fault → String
  | encoding => "a record is not UTF-8 text"
  | length expected found =>
    "a record has " ++ toString found ++ " cells instead of " ++ toString expected

/-- The texts of the cells of a record. -/
def texts (cells : List Cell) : Except Fault (List String) :=
  match cells.mapM fun c => String.fromUTF8? ⟨c.toArray⟩ with
  | some texts => .ok texts
  | none => .error .encoding

/-- The texts of a record below a number of columns. -/
def row (columns : Nat) (cells : List Cell) : Except Fault (List String) :=
  if cells.length = columns then texts cells else .error (.length columns cells.length)

end Csv

/-- The names of columns, and what each further record holds below them. -/
structure Sheet where
  columns : List String
  rows : List (Except Csv.Fault (List String))

/-- Reads a sheet; the names of its columns must be texts. A text without records is empty. -/
def Sheet.ofBytes (bytes : ByteArray) : Except Csv.Fault Sheet :=
  match Csv.records bytes.toList with
  | [] => .ok ⟨[], []⟩
  | names :: rest => do
    let columns ← Csv.texts names
    pure ⟨columns, rest.map (Csv.row columns.length)⟩

end Paperwork
