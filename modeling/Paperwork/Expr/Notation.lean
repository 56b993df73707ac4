import Paperwork.Expr.Basic

/-!
# The JSON notation of expressions

A text or a boolean stands for itself; everything else is an object with an `op`. `Expr.toJson`
writes an expression and `Expr.ofJson` reads one, down to 64 levels below the root.
-/

namespace Paperwork

/-- Why a JSON value is not an expression. -/
inductive ExprError where
  | missingOp (object : String)
  | unknownOp (operation : String)
  | missingOperand (operation operand : String)
  | invalidOperand (operation operand expected : String)
  | invalidLiteral (found : String)
  | notAnExpression (found : String)
  | tooDeep (levels : Nat)
deriving DecidableEq, Repr

/-- The wording of a fault. -/
def ExprError.message : ExprError → String
  | missingOp object => "expression object has no `op`: " ++ object
  | unknownOp operation => "unknown operation `" ++ operation ++ "`"
  | missingOperand operation operand =>
    "operation `" ++ operation ++ "` is missing `" ++ operand ++ "`"
  | invalidOperand operation operand expected =>
    "operation `" ++ operation ++ "` expects `" ++ operand ++ "` to be " ++ expected
  | invalidLiteral found =>
    "literal must be text, a boolean or a list of text, found " ++ found
  | notAnExpression found => "not an expression: " ++ found
  | tooDeep levels => "expression nesting exceeds " ++ Nat.repr levels ++ " levels"

namespace Expr

/-- The deepest level of nesting, the root being level zero. -/
def maxDepth : Nat := 64

/-! ## Writing -/

mutual

/-- The JSON form of an expression. -/
def toJson : Expr → Json
  | literal (.text s) => .text s
  | literal (.flag b) => .bool b
  | literal (.list items) =>
    .object [("op", .text "literal"), ("value", Json.texts items)]
  | field name => .object [("name", .text name), ("op", .text "field")]
  | concat args => .object [("args", .array (toJsonAll args)), ("op", .text "concat")]
  | cond c t e =>
    .object [("condition", c.toJson), ("else", e.toJson), ("op", .text "if"), ("then", t.toJson)]
  | split arg delimiter =>
    .object [("arg", arg.toJson), ("delimiter", .text delimiter), ("op", .text "split")]
  | index list position =>
    .object [("arr", list.toJson), ("op", .text "index"), ("pos", .number (.natural position))]
  | eq left right =>
    .object [("left", left.toJson), ("op", .text "eq"), ("right", right.toJson)]
  | upper arg => .object [("arg", arg.toJson), ("op", .text "upper")]
  | lower arg => .object [("arg", arg.toJson), ("op", .text "lower")]
  | replace subject pattern replacement =>
    .object [("op", .text "replace"), ("pattern", pattern.toJson),
      ("replacement", replacement.toJson), ("string", subject.toJson)]

def toJsonAll : List Expr → List Json
  | [] => []
  | e :: rest => e.toJson :: toJsonAll rest

end

/-! ## Reading -/

/-- The operand of an operation. -/
def operand (members : List (String × Json)) (operation name : String) : Except ExprError Json :=
  match Json.memberIn? members name with
  | some v => .ok v
  | none => .error (.missingOperand operation name)

/-- An operand of a certain shape. -/
def operandAs {α : Type} (members : List (String × Json)) (operation name expected : String)
    (shape : Json → Option α) : Except ExprError α := do
  match shape (← operand members operation name) with
  | some v => .ok v
  | none => .error (.invalidOperand operation name expected)

/-- The value of a literal. -/
def literalOf (v : Json) : Except ExprError Value :=
  match v, Value.ofRaw? (some v) with
  | .null, _ => .error (.invalidLiteral v.compact)
  | _, some value => .ok value
  | _, none => .error (.invalidLiteral v.compact)

/-- The position that a number spells. -/
def positionOf? : Json → Option UInt64
  | .number n => n.toPosition?
  | _ => none

/-- Reads every item in order and stops at the first fault. -/
def readAll (read : Json → Except ExprError Expr) : List Json → Except ExprError (List Expr)
  | [] => .ok []
  | v :: rest => do
    let e ← read v
    let es ← readAll read rest
    pure (e :: es)

/--
Reads the operation of an object, given how its operands are read. Operands are read in the order
in which they are documented, except that a fixed delimiter or position comes first.
-/
def ofOperation (members : List (String × Json)) (operation : String)
    (read : Json → Except ExprError Expr) : Except ExprError Expr :=
  let child (name : String) : Except ExprError Expr := do read (← operand members operation name)
  match operation with
  | "literal" => do
    pure (literal (← literalOf (← operand members operation "value")))
  | "field" => do
    pure (field (← operandAs members operation "name" "a field name" Json.text?))
  | "concat" => do
    let args ← operandAs members operation "args" "a list of expressions" Json.array?
    pure (concat (← readAll read args))
  | "if" => do
    let c ← child "condition"
    let t ← child "then"
    let e ← child "else"
    pure (cond c t e)
  | "split" => do
    let delimiter ← operandAs members operation "delimiter" "a string" Json.text?
    let arg ← child "arg"
    pure (split arg delimiter)
  | "index" => do
    let position ← operandAs members operation "pos" "a non-negative integer" positionOf?
    let list ← child "arr"
    pure (index list position)
  | "eq" => do
    let left ← child "left"
    let right ← child "right"
    pure (eq left right)
  | "upper" => do pure (upper (← child "arg"))
  | "lower" => do pure (lower (← child "arg"))
  | "replace" => do
    let subject ← child "string"
    let pattern ← child "pattern"
    let replacement ← child "replacement"
    pure (replace subject pattern replacement)
  | other => .error (.unknownOp other)

/-- Reads an expression that may take up some number of levels. -/
def ofJsonWithin : Nat → Json → Except ExprError Expr
  | 0, _ => .error (.tooDeep maxDepth)
  | _ + 1, .text s => .ok (literal (.text s))
  | _ + 1, .bool b => .ok (literal (.flag b))
  | levels + 1, .object members =>
    match (Json.memberIn? members "op").bind Json.text? with
    | none => .error (.missingOp (Json.object members).compact)
    | some operation => ofOperation members operation (ofJsonWithin levels)
  | _ + 1, v => .error (.notAnExpression v.compact)

/-- The expression that a JSON value spells. -/
def ofJson (v : Json) : Except ExprError Expr := ofJsonWithin (maxDepth + 1) v

end Expr

end Paperwork
