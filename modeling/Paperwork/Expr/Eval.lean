import Paperwork.Expr.Basic
import Paperwork.Pattern.Replacement
import Paperwork.Text.Pieces
import Paperwork.Unicode.Case

/-!
# Evaluation of expressions

Operands are evaluated from left to right and the first failure is the failure of the whole. Only
the branch that a condition selects is evaluated.
-/

namespace Paperwork.Expr

/-- The text that an operation needs. -/
def expectText (operation : String) : Value → Except EvalError String
  | .text s => .ok s
  | v => .error (.typeMismatch operation .text v.kind)

/-- The item of a list at a position. -/
def itemAt (position : UInt64) : Value → Except EvalError Value
  | .list items => match items[position.toNat]? with
    | some item => .ok (.text item)
    | none => .error (.indexOutOfRange position items.length)
  | v => .error (.typeMismatch "index" .list v.kind)

/-- A text with all matches of a pattern replaced. -/
def replaceIn (subject pattern replacement : String) : Except EvalError Value :=
  match Pattern.Program.compile pattern with
  | .ok p => .ok (.text (String.ofList (p.replaceAll subject.toList replacement.toList)))
  | .error fault => .error (.invalidPattern pattern fault.message)

mutual

/-- The value of an expression over fields. -/
def eval (fields : Fields) : Expr → Except EvalError Value
  | literal v => .ok v
  | field name => match fields.get? name with
    | some v => .ok v
    | none => .error (.undefinedField name)
  | concat args => do pure (.text (← evalConcat fields args))
  | cond c t e => do
    let v ← eval fields c
    if v.isTruthy then eval fields t else eval fields e
  | split arg delimiter => do
    let s ← expectText "split" (← eval fields arg)
    pure (.list (splitText delimiter s))
  | index list position => do itemAt position (← eval fields list)
  | eq left right => do
    let l ← eval fields left
    let r ← eval fields right
    pure (.flag (l == r))
  | upper arg => do
    let s ← expectText "upper" (← eval fields arg)
    pure (.text (Unicode.upper s))
  | lower arg => do
    let s ← expectText "lower" (← eval fields arg)
    pure (.text (Unicode.lower s))
  | replace subject pattern replacement => do
    let s ← expectText "replace" (← eval fields subject)
    let p ← expectText "replace" (← eval fields pattern)
    let r ← expectText "replace" (← eval fields replacement)
    replaceIn s p r

/-- The texts of expressions, one after the other. -/
def evalConcat (fields : Fields) : List Expr → Except EvalError String
  | [] => .ok ""
  | e :: rest => do
    let v ← eval fields e
    let s ← evalConcat fields rest
    pure (v.display ++ s)

end

end Paperwork.Expr
