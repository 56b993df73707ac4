import Paperwork.Value

/-!
# Expressions

Derived fields and conditions are expressions over the fields computed before them. An expression
fails in four ways (`EvalError`); a failing derived field or condition is a defect of its template.
-/

namespace Paperwork

/-- An expression over named fields. -/
inductive Expr where
  | literal (value : Value)
  | field (name : String)
  | concat (args : List Expr)
  | cond (condition thenBranch elseBranch : Expr)
  | split (arg : Expr) (delimiter : String)
  | index (list : Expr) (position : UInt64)
  | eq (left right : Expr)
  | upper (arg : Expr)
  | lower (arg : Expr)
  | replace (subject pattern replacement : Expr)
deriving Repr, Inhabited

/-- Why an expression has no value. -/
inductive EvalError where
  | undefinedField (name : String)
  | typeMismatch (operation : String) (expected found : Kind)
  | indexOutOfRange (position : UInt64) (length : Nat)
  | invalidPattern (pattern : String) (reason : String)
deriving DecidableEq, Repr

namespace EvalError

/-- The wording of a failure. -/
def message : EvalError → String
  | undefinedField name => "undefined field `" ++ name ++ "`"
  | typeMismatch operation expected found =>
    "`" ++ operation ++ "` expects " ++ expected.word ++ ", found " ++ found.word
  | indexOutOfRange position length =>
    "index " ++ Nat.repr position.toNat ++ " is out of range for a list of " ++ Nat.repr length
      ++ " items"
  | invalidPattern pattern reason => "invalid pattern `" ++ pattern ++ "`: " ++ reason

end EvalError

/-- A failing expression of a template, at the place where it stands. -/
inductive Defect where
  | derived (field : String) (cause : EvalError)
  | condition (document : String) (cause : EvalError)
deriving DecidableEq, Repr

/-- The wording of a defect. -/
def Defect.message : Defect → String
  | derived field cause => "derived field `" ++ field ++ "`: " ++ cause.message
  | condition document cause =>
    "conditions of document `" ++ document ++ "`: " ++ cause.message

namespace Expr

mutual

/-- The fields that an expression reads, in the order of its operands. -/
def references : Expr → List String
  | literal _ => []
  | field name => [name]
  | concat args => referencesOfAll args
  | cond c t e => c.references ++ t.references ++ e.references
  | split arg _ => arg.references
  | index list _ => list.references
  | eq left right => left.references ++ right.references
  | upper arg => arg.references
  | lower arg => arg.references
  | replace subject pattern replacement =>
    subject.references ++ pattern.references ++ replacement.references

def referencesOfAll : List Expr → List String
  | [] => []
  | e :: rest => e.references ++ referencesOfAll rest

end

end Expr

end Paperwork
