import Paperwork.Proofs.Expr.Notation
import Paperwork.Proofs.Json.Objects

/-!
# The grammar of expressions

`Denotes v e` says that a JSON value is the expression `e` by the grammar, whatever its depth. What
is read are the values that denote an expression in which nothing stands too deep, each one as the
expression it denotes (`ofJsonWithin_eq_ok_iff`). A key of an operation that the grammar does not
name plays no part: without these keys a value is read as before, or refused as before
(`ofJsonWithin_essential`).
-/

namespace Paperwork.Expr

/-! ## The grammar -/

/-- An object has a value under a key. -/
def Has (members : List (String × Json)) (key : String) (v : Json) : Prop :=
  Json.memberIn? members key = some v

/-- The values of literals. A number stands for its text. -/
inductive DenotesValue : Json → Value → Prop
  | text (s : String) : DenotesValue (.text s) (.text s)
  | number (n : Number) : DenotesValue (.number n) (.text n.text)
  | flag (b : Bool) : DenotesValue (.bool b) (.flag b)
  | list (items : List String) : DenotesValue (Json.texts items) (.list items)

/--
The grammar: a text, a boolean, or an object whose `op` names an operation and that has the operands
of this operation.
-/
inductive Denotes : Json → Expr → Prop
  | text (s : String) : Denotes (.text s) (literal (.text s))
  | flag (b : Bool) : Denotes (.bool b) (literal (.flag b))
  | literal {members : List (String × Json)} {v : Json} {value : Value}
      (op : Has members "op" (.text "literal"))
      (given : Has members "value" v) (denotes : DenotesValue v value) :
      Denotes (.object members) (literal value)
  | field {members : List (String × Json)} {name : String}
      (op : Has members "op" (.text "field"))
      (given : Has members "name" (.text name)) : Denotes (.object members) (field name)
  | concat {members : List (String × Json)} {vs : List Json} {args : List Expr}
      (op : Has members "op" (.text "concat"))
      (given : Has members "args" (.array vs)) (denote : List.Forall₂ Denotes vs args) :
      Denotes (.object members) (concat args)
  | cond {members : List (String × Json)} {u v w : Json} {c t e : Expr}
      (op : Has members "op" (.text "if"))
      (givenCondition : Has members "condition" u) (condition : Denotes u c)
      (givenThen : Has members "then" v) (thenBranch : Denotes v t)
      (givenElse : Has members "else" w) (elseBranch : Denotes w e) :
      Denotes (.object members) (cond c t e)
  | split {members : List (String × Json)} {v : Json} {delimiter : String} {arg : Expr}
      (op : Has members "op" (.text "split"))
      (givenArg : Has members "arg" v) (denotesArg : Denotes v arg)
      (givenDelimiter : Has members "delimiter" (.text delimiter)) :
      Denotes (.object members) (split arg delimiter)
  | index {members : List (String × Json)} {v : Json} {position : UInt64} {list : Expr}
      (op : Has members "op" (.text "index"))
      (givenList : Has members "arr" v) (denotesList : Denotes v list)
      (givenPosition : Has members "pos" (.number (.natural position))) :
      Denotes (.object members) (index list position)
  | eq {members : List (String × Json)} {v w : Json} {left right : Expr}
      (op : Has members "op" (.text "eq"))
      (givenLeft : Has members "left" v) (denotesLeft : Denotes v left)
      (givenRight : Has members "right" w) (denotesRight : Denotes w right) :
      Denotes (.object members) (eq left right)
  | upper {members : List (String × Json)} {v : Json} {arg : Expr}
      (op : Has members "op" (.text "upper"))
      (given : Has members "arg" v) (denotes : Denotes v arg) :
      Denotes (.object members) (upper arg)
  | lower {members : List (String × Json)} {v : Json} {arg : Expr}
      (op : Has members "op" (.text "lower"))
      (given : Has members "arg" v) (denotes : Denotes v arg) :
      Denotes (.object members) (lower arg)
  | replace {members : List (String × Json)} {u v w : Json} {subject pattern replacement : Expr}
      (op : Has members "op" (.text "replace"))
      (givenSubject : Has members "string" u) (denotesSubject : Denotes u subject)
      (givenPattern : Has members "pattern" v) (denotesPattern : Denotes v pattern)
      (givenReplacement : Has members "replacement" w)
      (denotesReplacement : Denotes w replacement) :
      Denotes (.object members) (replace subject pattern replacement)

/-! ## Operands -/

section Operands

variable {members : List (String × Json)} {operation key expected : String} {v : Json}

theorem operand_eq_ok_iff : operand members operation key = .ok v ↔ Has members key v := by
  unfold operand Has
  cases Json.memberIn? members key <;> simp

theorem operandAs_eq_ok_iff {α : Type} {shape : Json → Option α} {a : α} :
    operandAs members operation key expected shape = .ok a ↔
      ∃ v, Has members key v ∧ shape v = some a := by
  rw [operandAs, bind_eq_ok_iff]
  refine exists_congr fun v => and_congr operand_eq_ok_iff ?_
  cases shape v <;> simp

theorem text?_eq_some_iff {s : String} : v.text? = some s ↔ v = .text s := by
  cases v <;> simp [Json.text?]

theorem array?_eq_some_iff {vs : List Json} : v.array? = some vs ↔ v = .array vs := by
  cases v <;> simp [Json.array?]

theorem positionOf?_eq_some_iff {position : UInt64} :
    positionOf? v = some position ↔ v = .number (.natural position) := by
  cases v with
  | number n => cases n <;> simp [positionOf?, Number.toPosition?]
  | _ => simp [positionOf?]

theorem textItems?_eq_some_iff {vs : List Json} {items : List String} :
    Value.textItems? vs = some items ↔ vs = items.map .text := by
  constructor
  · intro h
    induction vs generalizing items with
    | nil =>
      cases h
      rfl
    | cons v vs ih =>
      cases v with
      | text s =>
        rw [Value.textItems?, Option.map_eq_some_iff] at h
        obtain ⟨rest, hrest, rfl⟩ := h
        rw [List.map_cons, ← ih hrest]
      | _ => simp [Value.textItems?] at h
  · rintro rfl
    exact Value.textItems?_map_text items

theorem literalOf_eq_ok_iff {value : Value} : literalOf v = .ok value ↔ DenotesValue v value := by
  constructor
  · intro h
    cases v with
    | text s =>
      cases h
      exact .text s
    | number n =>
      cases h
      exact .number n
    | bool b =>
      cases h
      exact .flag b
    | null => cases h
    | object members => cases h
    | array vs =>
      unfold literalOf Value.ofRaw? at h
      cases hitems : Value.textItems? vs with
      | none => simp [hitems] at h
      | some items =>
        rw [textItems?_eq_some_iff] at hitems
        subst hitems
        simp only [Value.textItems?_map_text, Option.map_some, Except.ok.injEq] at h
        subst h
        exact .list items
  · intro h
    cases h with
    | text s => rfl
    | number n => rfl
    | flag b => rfl
    | list items => exact literalOf_texts items

theorem readAll_eq_ok_iff {read : Json → Except ExprError Expr} {vs : List Json}
    {es : List Expr} :
    readAll read vs = .ok es ↔ List.Forall₂ (fun v e => read v = .ok e) vs es := by
  induction vs generalizing es with
  | nil => simp [readAll, eq_comm]
  | cons v vs ih =>
    simp only [readAll, bind_eq_ok_iff, pure_eq_ok_iff, List.forall₂_cons_left_iff, ih]
    constructor
    · rintro ⟨e, he, rest, hrest, rfl⟩
      exact ⟨e, rest, he, hrest, rfl⟩
    · rintro ⟨e, rest, he, hrest, rfl⟩
      exact ⟨e, he, rest, hrest, rfl⟩

end Operands

/-! ## What is read -/

section Reading

variable {members : List (String × Json)} {operation : String}
  {read : Json → Except ExprError Expr} {e : Expr}

/-- The operation of an object is one of the grammar, if its operands are. -/
theorem denotes_of_ofOperation (hop : Has members "op" (.text operation))
    (h : ofOperation members operation read = .ok e)
    (hread : ∀ v e, read v = .ok e → Denotes v e) : Denotes (.object members) e := by
  unfold ofOperation at h
  -- one case for each operation, in the order in which they are told apart
  split at h <;> simp only [bind_eq_ok_iff, pure_eq_ok_iff, operand_eq_ok_iff,
    operandAs_eq_ok_iff, literalOf_eq_ok_iff, text?_eq_some_iff, array?_eq_some_iff,
    positionOf?_eq_some_iff, readAll_eq_ok_iff] at h
  case h_1 =>
    obtain ⟨v, hv, value, hvalue, rfl⟩ := h
    exact .literal hop hv hvalue
  case h_2 =>
    obtain ⟨name, ⟨v, hv, rfl⟩, rfl⟩ := h
    exact .field hop hv
  case h_3 =>
    obtain ⟨vs, ⟨v, hv, rfl⟩, es, hes, rfl⟩ := h
    exact .concat hop hv (hes.imp hread)
  case h_4 =>
    obtain ⟨c, ⟨u, hu, hc⟩, t, ⟨v, hv, ht⟩, e, ⟨w, hw, he⟩, rfl⟩ := h
    exact .cond hop hu (hread u c hc) hv (hread v t ht) hw (hread w e he)
  case h_5 =>
    obtain ⟨delimiter, ⟨w, hw, rfl⟩, arg, ⟨v, hv, harg⟩, rfl⟩ := h
    exact .split hop hv (hread v arg harg) hw
  case h_6 =>
    obtain ⟨position, ⟨w, hw, rfl⟩, list, ⟨v, hv, hlist⟩, rfl⟩ := h
    exact .index hop hv (hread v list hlist) hw
  case h_7 =>
    obtain ⟨left, ⟨v, hv, hleft⟩, right, ⟨w, hw, hright⟩, rfl⟩ := h
    exact .eq hop hv (hread v left hleft) hw (hread w right hright)
  case h_8 =>
    obtain ⟨arg, ⟨v, hv, harg⟩, rfl⟩ := h
    exact .upper hop hv (hread v arg harg)
  case h_9 =>
    obtain ⟨arg, ⟨v, hv, harg⟩, rfl⟩ := h
    exact .lower hop hv (hread v arg harg)
  case h_10 =>
    obtain ⟨subject, ⟨u, hu, hs⟩, pattern, ⟨v, hv, hp⟩, replacement, ⟨w, hw, hr⟩, rfl⟩ := h
    exact .replace hop hu (hread u subject hs) hv (hread v pattern hp) hw (hread w replacement hr)
  case h_11 => cases h

theorem ofJsonWithin_object {levels : Nat} (hop : Has members "op" (.text operation)) :
    ofJsonWithin (levels + 1) (.object members) =
      ofOperation members operation (ofJsonWithin levels) := by
  rw [ofJsonWithin, hop]
  rfl

theorem denotes_of_ofJsonWithin {levels : Nat} {v : Json} (h : ofJsonWithin levels v = .ok e) :
    Denotes v e := by
  induction levels generalizing v e with
  | zero => cases h
  | succ levels ih =>
    cases v with
    | text s =>
      cases h
      exact .text s
    | bool b =>
      cases h
      exact .flag b
    | object members =>
      cases hop : (Json.memberIn? members "op").bind Json.text? with
      | none => simp [ofJsonWithin, hop] at h
      | some operation =>
        obtain ⟨w, hw, htext⟩ := Option.bind_eq_some_iff.mp hop
        rw [text?_eq_some_iff] at htext
        subst htext
        rw [ofJsonWithin_object hw] at h
        exact denotes_of_ofOperation hw h fun v e => ih
    | null => cases h
    | number n => cases h
    | array vs => cases h

/-- With levels enough for its expression, a value of the grammar is read. -/
theorem ofJsonWithin_of_denotes {levels : Nat} {v : Json} (h : Denotes v e)
    (hheight : e.height < levels) : ofJsonWithin levels v = .ok e := by
  induction levels generalizing v e with
  | zero => exact absurd hheight (Nat.not_lt_zero _)
  | succ levels ih =>
    rw [height_lt_succ_iff] at hheight
    cases h with
    | text s => rfl
    | flag b => rfl
    | literal op given denotes =>
      rw [ofJsonWithin_object op]
      simp only [ofOperation, bind_eq_ok_iff, pure_eq_ok_iff, operand_eq_ok_iff,
        literalOf_eq_ok_iff]
      exact ⟨_, given, _, denotes, rfl⟩
    | field op given =>
      rw [ofJsonWithin_object op]
      simp only [ofOperation, bind_eq_ok_iff, pure_eq_ok_iff, operandAs_eq_ok_iff]
      exact ⟨_, ⟨_, given, rfl⟩, rfl⟩
    | @concat members vs args op given denote =>
      have hargs : List.Forall₂ (fun v e => ofJsonWithin levels v = .ok e) vs args := by
        refine List.forall₂_iff_get.mpr ⟨denote.length_eq, fun i hv hargs => ?_⟩
        exact ih (denote.get hv hargs) (hheight _ (List.get_mem args ⟨i, hargs⟩))
      rw [ofJsonWithin_object op]
      simp only [ofOperation, bind_eq_ok_iff, pure_eq_ok_iff, operandAs_eq_ok_iff,
        readAll_eq_ok_iff]
      exact ⟨_, ⟨_, given, rfl⟩, _, hargs, rfl⟩
    | cond op givenCondition condition givenThen thenBranch givenElse elseBranch =>
      simp only [operands, List.forall_mem_cons] at hheight
      obtain ⟨hc, ht, he, -⟩ := hheight
      rw [ofJsonWithin_object op]
      simp only [ofOperation, bind_eq_ok_iff, pure_eq_ok_iff, operand_eq_ok_iff]
      exact ⟨_, ⟨_, givenCondition, ih condition hc⟩, _, ⟨_, givenThen, ih thenBranch ht⟩, _,
        ⟨_, givenElse, ih elseBranch he⟩, rfl⟩
    | split op givenArg denotesArg givenDelimiter =>
      simp only [operands, List.forall_mem_cons] at hheight
      rw [ofJsonWithin_object op]
      simp only [ofOperation, bind_eq_ok_iff, pure_eq_ok_iff, operand_eq_ok_iff,
        operandAs_eq_ok_iff]
      exact ⟨_, ⟨_, givenDelimiter, rfl⟩, _, ⟨_, givenArg, ih denotesArg hheight.1⟩, rfl⟩
    | index op givenList denotesList givenPosition =>
      simp only [operands, List.forall_mem_cons] at hheight
      rw [ofJsonWithin_object op]
      simp only [ofOperation, bind_eq_ok_iff, pure_eq_ok_iff, operand_eq_ok_iff,
        operandAs_eq_ok_iff]
      exact ⟨_, ⟨_, givenPosition, rfl⟩, _, ⟨_, givenList, ih denotesList hheight.1⟩, rfl⟩
    | eq op givenLeft denotesLeft givenRight denotesRight =>
      simp only [operands, List.forall_mem_cons] at hheight
      obtain ⟨hleft, hright, -⟩ := hheight
      rw [ofJsonWithin_object op]
      simp only [ofOperation, bind_eq_ok_iff, pure_eq_ok_iff, operand_eq_ok_iff]
      exact ⟨_, ⟨_, givenLeft, ih denotesLeft hleft⟩, _, ⟨_, givenRight, ih denotesRight hright⟩,
        rfl⟩
    | upper op given denotes =>
      simp only [operands, List.forall_mem_cons] at hheight
      rw [ofJsonWithin_object op]
      simp only [ofOperation, bind_eq_ok_iff, pure_eq_ok_iff, operand_eq_ok_iff]
      exact ⟨_, ⟨_, given, ih denotes hheight.1⟩, rfl⟩
    | lower op given denotes =>
      simp only [operands, List.forall_mem_cons] at hheight
      rw [ofJsonWithin_object op]
      simp only [ofOperation, bind_eq_ok_iff, pure_eq_ok_iff, operand_eq_ok_iff]
      exact ⟨_, ⟨_, given, ih denotes hheight.1⟩, rfl⟩
    | replace op givenSubject denotesSubject givenPattern denotesPattern givenReplacement
        denotesReplacement =>
      simp only [operands, List.forall_mem_cons] at hheight
      obtain ⟨hs, hp, hr, -⟩ := hheight
      rw [ofJsonWithin_object op]
      simp only [ofOperation, bind_eq_ok_iff, pure_eq_ok_iff, operand_eq_ok_iff]
      exact ⟨_, ⟨_, givenSubject, ih denotesSubject hs⟩, _,
        ⟨_, givenPattern, ih denotesPattern hp⟩, _,
        ⟨_, givenReplacement, ih denotesReplacement hr⟩, rfl⟩

/-- The values that are read are those of the grammar with no more levels than there are. -/
theorem ofJsonWithin_eq_ok_iff {levels : Nat} {v : Json} :
    ofJsonWithin levels v = .ok e ↔ Denotes v e ∧ e.height < levels :=
  ⟨fun h => ⟨denotes_of_ofJsonWithin h, height_lt_of_ofJsonWithin h⟩,
    fun h => ofJsonWithin_of_denotes h.1 h.2⟩

end Reading

/-! ## Keys that play no part -/

/-- How an operation takes what stands under a key. -/
inductive Role where
  | verbatim
  | expression
  | expressions
deriving DecidableEq, Repr

/-- The operands of an operation. -/
def operandRoles : String → List (String × Role)
  | "literal" => [("value", .verbatim)]
  | "field" => [("name", .verbatim)]
  | "concat" => [("args", .expressions)]
  | "if" => [("condition", .expression), ("then", .expression), ("else", .expression)]
  | "split" => [("arg", .expression), ("delimiter", .verbatim)]
  | "index" => [("arr", .expression), ("pos", .verbatim)]
  | "eq" => [("left", .expression), ("right", .expression)]
  | "upper" => [("arg", .expression)]
  | "lower" => [("arg", .expression)]
  | "replace" =>
    [("string", .expression), ("pattern", .expression), ("replacement", .expression)]
  | _ => []

/-- How an object of an operation takes what stands under a key, if it takes it at all. -/
def roleOf? (operation key : String) : Option Role :=
  ((("op", Role.verbatim) :: operandRoles operation).find? (·.1 == key)).map (·.2)

mutual

/-- A value in its role, without the keys of operations that the grammar does not name. -/
def essential : Role → Json → Json
  | .expression, .object members =>
    match (Json.memberIn? members "op").bind Json.text? with
    | some operation => .object (essentialMembers operation members)
    | none => .object members
  | .expressions, .array vs => .array (essentialAll vs)
  | _, v => v

/-- The members of an operation that it takes, each one in its role. -/
def essentialMembers (operation : String) : List (String × Json) → List (String × Json)
  | [] => []
  | (key, v) :: rest =>
    match roleOf? operation key with
    | some role => (key, essential role v) :: essentialMembers operation rest
    | none => essentialMembers operation rest

def essentialAll : List Json → List Json
  | [] => []
  | v :: rest => essential .expression v :: essentialAll rest

end

section Essential

variable {members : List (String × Json)} {operation key expected : String}

@[simp] theorem essential_verbatim (v : Json) : essential .verbatim v = v := by
  cases v <;> rfl

theorem memberIn?_essentialMembers :
    Json.memberIn? (essentialMembers operation members) key =
      (roleOf? operation key).bind fun role =>
        (Json.memberIn? members key).map (essential role) := by
  induction members with
  | nil => cases roleOf? operation key <;> rfl
  | cons m members ih =>
    obtain ⟨name, v⟩ := m
    cases hrole : roleOf? operation name with
    | none =>
      rw [essentialMembers, hrole, ih, Json.memberIn?_cons]
      split
      · rename_i hkey
        rw [hkey, hrole]
        rfl
      · rfl
    | some role =>
      rw [essentialMembers, hrole, Json.memberIn?_cons, Json.memberIn?_cons, ih]
      split
      · rename_i hkey
        rw [hkey, hrole]
        rfl
      · rfl

theorem operand_essentialMembers {role : Role} (h : roleOf? operation key = some role) :
    operand (essentialMembers operation members) operation key =
      (operand members operation key).map (essential role) := by
  rw [operand, operand, memberIn?_essentialMembers, h]
  cases Json.memberIn? members key <;> rfl

theorem operand_essentialMembers_verbatim (h : roleOf? operation key = some .verbatim) :
    operand (essentialMembers operation members) operation key = operand members operation key := by
  rw [operand_essentialMembers h]
  cases operand members operation key <;> simp [Except.map]

variable {read : Json → Except ExprError Expr}

theorem readAll_essentialAll (hread : ∀ v, read (essential .expression v) = read v)
    (vs : List Json) : readAll read (essentialAll vs) = readAll read vs := by
  induction vs with
  | nil => rfl
  | cons v vs ih => rw [essentialAll, readAll, readAll, hread, ih]

theorem child_essentialMembers (hread : ∀ v, read (essential .expression v) = read v)
    (h : roleOf? operation key = some .expression) :
    (operand (essentialMembers operation members) operation key >>= read) =
      operand members operation key >>= read := by
  rw [operand_essentialMembers h]
  cases operand members operation key with
  | error fault => rfl
  | ok v => exact hread v

theorem children_essentialMembers {β : Type} {next : List Expr → Except ExprError β}
    (hread : ∀ v, read (essential .expression v) = read v)
    (h : roleOf? operation key = some .expressions) :
    (operandAs (essentialMembers operation members) operation key expected Json.array? >>=
        fun vs => readAll read vs >>= next) =
      operandAs members operation key expected Json.array? >>= fun vs =>
        readAll read vs >>= next := by
  rw [operandAs, operandAs, operand_essentialMembers h]
  cases operand members operation key with
  | error fault => rfl
  | ok v =>
    cases v with
    | array vs =>
      show (readAll read (essentialAll vs) >>= next) = readAll read vs >>= next
      rw [readAll_essentialAll hread]
    | _ => rfl

theorem ofOperation_essentialMembers (hread : ∀ v, read (essential .expression v) = read v) :
    ofOperation (essentialMembers operation members) operation read =
      ofOperation members operation read := by
  have hchild : ∀ key, roleOf? operation key = some .expression →
      (operand (essentialMembers operation members) operation key >>= read) =
        operand members operation key >>= read := fun key => child_essentialMembers hread
  have hgiven : ∀ key, roleOf? operation key = some .verbatim →
      operand (essentialMembers operation members) operation key =
        operand members operation key := fun key => operand_essentialMembers_verbatim
  unfold ofOperation
  split
  case h_1 => simp only [hgiven "value" rfl]
  case h_2 => simp only [operandAs, hgiven "name" rfl]
  case h_3 => exact children_essentialMembers hread rfl
  case h_4 => simp only [hchild "condition" rfl, hchild "then" rfl, hchild "else" rfl]
  case h_5 => simp only [operandAs, hgiven "delimiter" rfl, hchild "arg" rfl]
  case h_6 => simp only [operandAs, hgiven "pos" rfl, hchild "arr" rfl]
  case h_7 => simp only [hchild "left" rfl, hchild "right" rfl]
  case h_8 => simp only [hchild "arg" rfl]
  case h_9 => simp only [hchild "arg" rfl]
  case h_10 => simp only [hchild "string" rfl, hchild "pattern" rfl, hchild "replacement" rfl]
  case h_11 => rfl

/-- Without the keys that the grammar does not name, a value is read as with them. -/
theorem ofJsonWithin_essential (levels : Nat) (v : Json) :
    ofJsonWithin levels (essential .expression v) = ofJsonWithin levels v := by
  induction levels generalizing v with
  | zero => rfl
  | succ levels ih =>
    cases v with
    | object members =>
      cases hop : (Json.memberIn? members "op").bind Json.text? with
      | none => rw [essential, hop]
      | some operation =>
        obtain ⟨w, hw, htext⟩ := Option.bind_eq_some_iff.mp hop
        rw [text?_eq_some_iff] at htext
        subst htext
        have hkept : Has (essentialMembers operation members) "op" (.text operation) := by
          rw [Has, memberIn?_essentialMembers, hw]
          rfl
        rw [essential, hop, ofJsonWithin_object hw]
        exact (ofJsonWithin_object hkept).trans (ofOperation_essentialMembers ih)
    | _ => rfl

end Essential

/--
What is read as an expression are the values of the grammar with no subexpression deeper than 64
levels below the root, each as the expression that it denotes, and every other value is refused.
Keys that the grammar does not name, at whatever level, change neither.
-/
theorem ofJson_accepts_grammar (v : Json) :
    (∀ e, ofJson v = .ok e ↔ Denotes v e ∧ e.IsWithin maxDepth) ∧
      ((∃ fault, ofJson v = .error fault) ↔ ¬ ∃ e, Denotes v e ∧ e.IsWithin maxDepth) ∧
      ofJson (essential .expression v) = ofJson v := by
  have haccepts : ∀ e, ofJson v = .ok e ↔ Denotes v e ∧ e.IsWithin maxDepth := fun e => by
    rw [isWithin_iff]
    exact ofJsonWithin_eq_ok_iff
  refine ⟨haccepts, ?_, ofJsonWithin_essential _ v⟩
  simp only [← haccepts]
  cases ofJson v <;> simp

/-- A remark beside an operation plays no part. -/
example : essential .expression lastItem =
    .object [("arr", .object [("op", .text "literal"), ("value", Json.texts ["a", "b"])]),
      ("op", .text "index"), ("pos", .number (.natural 18446744073709551615))] := rfl

end Paperwork.Expr
