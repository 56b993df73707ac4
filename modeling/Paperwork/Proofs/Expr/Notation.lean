import Paperwork.Expr.Notation
import Paperwork.Proofs.Expr.References
import Paperwork.Proofs.Value

/-!
# Reading expressions back

What `Expr.toJson` writes is read back as the same expression, as long as no subexpression stands
too deep; otherwise the depth is the only fault (`ofJsonWithin_toJson`). Whatever is read is never
too deep (`height_lt_of_ofJsonWithin`), so an expression that was read once can be written and read
any number of times.
-/

namespace Paperwork.Expr

/-! ## Levels of nesting -/

/-- The expressions that an expression is put together from, in the order in which they are read. -/
def operands : Expr → List Expr
  | literal _ => []
  | field _ => []
  | concat args => args
  | cond c t e => [c, t, e]
  | split arg _ => [arg]
  | index list _ => [list]
  | eq left right => [left, right]
  | upper arg => [arg]
  | lower arg => [arg]
  | replace subject pattern replacement => [subject, pattern, replacement]

/-- `StandsAt n sub e` says that `sub` is a subexpression of `e` at level `n`, the root being zero. -/
inductive StandsAt : Nat → Expr → Expr → Prop
  | root (e : Expr) : StandsAt 0 e e
  | inside {n : Nat} {sub a e : Expr} (operand : a ∈ e.operands) (stands : StandsAt n sub a) :
      StandsAt (n + 1) sub e

/-- No subexpression stands deeper than at a level. -/
def IsWithin (level : Nat) (e : Expr) : Prop := ∀ n sub, StandsAt n sub e → n ≤ level

mutual

/-- The level of the deepest subexpression. -/
def height : Expr → Nat
  | literal _ => 0
  | field _ => 0
  | concat args => heightOfAll args
  | cond c t e => max c.height (max t.height e.height) + 1
  | split arg _ => arg.height + 1
  | index list _ => list.height + 1
  | eq left right => max left.height right.height + 1
  | upper arg => arg.height + 1
  | lower arg => arg.height + 1
  | replace subject pattern replacement =>
    max subject.height (max pattern.height replacement.height) + 1

/-- The level of the deepest subexpression of operands, which stand one level deeper. -/
def heightOfAll : List Expr → Nat
  | [] => 0
  | e :: rest => max (e.height + 1) (heightOfAll rest)

end

theorem heightOfAll_lt_succ_iff {n : Nat} {es : List Expr} :
    heightOfAll es < n + 1 ↔ ∀ e ∈ es, e.height < n := by
  induction es with
  | nil => simp [heightOfAll]
  | cons e es ih =>
    rw [heightOfAll, List.forall_mem_cons, ← ih]
    omega

theorem height_eq (e : Expr) : e.height = heightOfAll e.operands := by
  cases e <;> simp only [height, operands, heightOfAll] <;> omega

theorem height_lt_succ_iff {n : Nat} {e : Expr} :
    e.height < n + 1 ↔ ∀ a ∈ e.operands, a.height < n := by
  rw [height_eq]
  exact heightOfAll_lt_succ_iff

theorem isWithin_iff {level : Nat} {e : Expr} : e.IsWithin level ↔ e.height < level + 1 := by
  induction level generalizing e with
  | zero =>
    rw [height_lt_succ_iff]
    constructor
    · intro h a ha
      exact absurd (h 1 a (.inside ha (.root a))) (by omega)
    · intro h n sub hsub
      cases hsub with
      | root => exact Nat.le_refl 0
      | inside ha _ => exact absurd (h _ ha) (Nat.not_lt_zero _)
  | succ level ih =>
    rw [height_lt_succ_iff]
    constructor
    · intro h a ha
      refine ih.mp fun n sub hsub => ?_
      exact Nat.le_of_succ_le_succ (h (n + 1) sub (.inside ha hsub))
    · intro h n sub hsub
      cases hsub with
      | root => exact Nat.zero_le _
      | inside ha hstands => exact Nat.succ_le_succ (ih.mpr (h _ ha) _ _ hstands)

/-! ## Writing and reading -/

/-- What reading leads to with a number of levels left: the expression, or too deep a nesting. -/
def readBack (levels : Nat) (e : Expr) : Except ExprError Expr :=
  if e.height < levels then .ok e else .error (.tooDeep maxDepth)

theorem readBack_succ (levels : Nat) (e : Expr) :
    readBack (levels + 1) e =
      if ∀ a ∈ e.operands, a.height < levels then .ok e else .error (.tooDeep maxDepth) := by
  unfold readBack
  simp only [height_lt_succ_iff]

/-- An operand that is too deep ends the reading, whatever would be read after it. -/
theorem readBack_bind {β : Type} {levels : Nat} {a : Expr} {whole : β} {rest : Prop}
    [Decidable rest] {next : Expr → Except ExprError β}
    (h : next a = if rest then .ok whole else .error (.tooDeep maxDepth)) :
    (readBack levels a >>= next) =
      if a.height < levels ∧ rest then .ok whole else .error (.tooDeep maxDepth) := by
  unfold readBack
  by_cases ha : a.height < levels
  · rw [if_pos ha]
    show next a = _
    simp only [h, ha, true_and]
  · rw [if_neg ha, if_neg fun hboth => ha hboth.1]
    rfl

theorem readAll_toJsonAll {levels : Nat} {es : List Expr} {read : Json → Except ExprError Expr}
    (h : ∀ e ∈ es, read e.toJson = readBack levels e) :
    readAll read (toJsonAll es) =
      if ∀ e ∈ es, e.height < levels then .ok es else .error (.tooDeep maxDepth) := by
  induction es with
  | nil => rfl
  | cons e es ih =>
    obtain ⟨he, hes⟩ := List.forall_mem_cons.mp h
    rw [toJsonAll, readAll, he]
    simp only [List.forall_mem_cons]
    refine readBack_bind ?_
    rw [ih hes]
    split <;> rfl

theorem literalOf_texts (items : List String) :
    literalOf (Json.texts items) = .ok (.list items) := by
  have hvalue : Value.ofRaw? (some (Json.texts items)) = some (.list items) :=
    Value.ofRaw?_toJson (.list items)
  unfold literalOf
  rw [hvalue]
  rfl

/-- An expression is read back as it was written, if there are levels enough for it. -/
theorem ofJsonWithin_toJson (levels : Nat) (e : Expr) :
    ofJsonWithin levels e.toJson = readBack levels e := by
  induction levels generalizing e with
  | zero => rfl
  | succ levels ih =>
    rw [readBack_succ]
    cases e with
    | literal value =>
      cases value with
      | text s => rfl
      | flag b => rfl
      | list items =>
        show (literalOf (Json.texts items) >>= fun v => pure (literal v)) = _
        rw [literalOf_texts]
        rfl
    | field name => rfl
    | concat args =>
      show (readAll (ofJsonWithin levels) (toJsonAll args) >>= fun es => pure (concat es)) = _
      rw [readAll_toJsonAll fun e _ => ih e, operands]
      split <;> rfl
    | cond c t e =>
      show (ofJsonWithin levels c.toJson >>= fun c => ofJsonWithin levels t.toJson >>= fun t =>
        ofJsonWithin levels e.toJson >>= fun e => pure (cond c t e)) = _
      simp only [ih, operands, List.forall_mem_cons]
      exact readBack_bind (readBack_bind (readBack_bind rfl))
    | split arg delimiter =>
      show (ofJsonWithin levels arg.toJson >>= fun e => pure (split e delimiter)) = _
      simp only [ih, operands, List.forall_mem_cons]
      exact readBack_bind rfl
    | index list position =>
      show (ofJsonWithin levels list.toJson >>= fun e => pure (index e position)) = _
      simp only [ih, operands, List.forall_mem_cons]
      exact readBack_bind rfl
    | eq left right =>
      show (ofJsonWithin levels left.toJson >>= fun l => ofJsonWithin levels right.toJson >>= fun r =>
        pure (eq l r)) = _
      simp only [ih, operands, List.forall_mem_cons]
      exact readBack_bind (readBack_bind rfl)
    | upper arg =>
      show (ofJsonWithin levels arg.toJson >>= fun e => pure (upper e)) = _
      simp only [ih, operands, List.forall_mem_cons]
      exact readBack_bind rfl
    | lower arg =>
      show (ofJsonWithin levels arg.toJson >>= fun e => pure (lower e)) = _
      simp only [ih, operands, List.forall_mem_cons]
      exact readBack_bind rfl
    | replace subject pattern replacement =>
      show (ofJsonWithin levels subject.toJson >>= fun s =>
        ofJsonWithin levels pattern.toJson >>= fun p =>
        ofJsonWithin levels replacement.toJson >>= fun r => pure (replace s p r)) = _
      simp only [ih, operands, List.forall_mem_cons]
      exact readBack_bind (readBack_bind (readBack_bind rfl))

/-! ## What was read -/

theorem mem_of_readAll {read : Json → Except ExprError Expr} {vs : List Json} {es : List Expr}
    (h : readAll read vs = .ok es) : ∀ e ∈ es, ∃ v, read v = .ok e := by
  induction vs generalizing es with
  | nil =>
    obtain rfl := Except.ok.inj h
    simp
  | cons v vs ih =>
    simp only [readAll, bind_eq_ok_iff, pure_eq_ok_iff] at h
    obtain ⟨e, he, rest, hrest, rfl⟩ := h
    exact List.forall_mem_cons.mpr ⟨⟨v, he⟩, ih hrest⟩

/-- The operands of what an operation is read as were read themselves. -/
theorem operands_of_ofOperation {members : List (String × Json)} {operation : String}
    {read : Json → Except ExprError Expr} {e : Expr}
    (h : ofOperation members operation read = .ok e) : ∀ a ∈ e.operands, ∃ v, read v = .ok a := by
  unfold ofOperation at h
  -- one case for each operation, in the order in which they are told apart
  split at h <;> simp only [bind_eq_ok_iff, pure_eq_ok_iff] at h
  case h_1 =>
    obtain ⟨v, -, value, -, rfl⟩ := h
    simp [operands]
  case h_2 =>
    obtain ⟨name, -, rfl⟩ := h
    simp [operands]
  case h_3 =>
    obtain ⟨args, -, es, hes, rfl⟩ := h
    exact mem_of_readAll hes
  case h_4 =>
    obtain ⟨c, ⟨v, -, hc⟩, t, ⟨w, -, ht⟩, e, ⟨x, -, he⟩, rfl⟩ := h
    simp only [operands, List.forall_mem_cons]
    exact ⟨⟨v, hc⟩, ⟨w, ht⟩, ⟨x, he⟩, by simp⟩
  case h_5 =>
    obtain ⟨delimiter, -, arg, ⟨v, -, harg⟩, rfl⟩ := h
    simp only [operands, List.forall_mem_cons]
    exact ⟨⟨v, harg⟩, by simp⟩
  case h_6 =>
    obtain ⟨position, -, list, ⟨v, -, hlist⟩, rfl⟩ := h
    simp only [operands, List.forall_mem_cons]
    exact ⟨⟨v, hlist⟩, by simp⟩
  case h_7 =>
    obtain ⟨left, ⟨v, -, hleft⟩, right, ⟨w, -, hright⟩, rfl⟩ := h
    simp only [operands, List.forall_mem_cons]
    exact ⟨⟨v, hleft⟩, ⟨w, hright⟩, by simp⟩
  case h_8 =>
    obtain ⟨arg, ⟨v, -, harg⟩, rfl⟩ := h
    simp only [operands, List.forall_mem_cons]
    exact ⟨⟨v, harg⟩, by simp⟩
  case h_9 =>
    obtain ⟨arg, ⟨v, -, harg⟩, rfl⟩ := h
    simp only [operands, List.forall_mem_cons]
    exact ⟨⟨v, harg⟩, by simp⟩
  case h_10 =>
    obtain ⟨subject, ⟨v, -, hs⟩, pattern, ⟨w, -, hp⟩, replacement, ⟨x, -, hr⟩, rfl⟩ := h
    simp only [operands, List.forall_mem_cons]
    exact ⟨⟨v, hs⟩, ⟨w, hp⟩, ⟨x, hr⟩, by simp⟩
  case h_11 => cases h

theorem height_lt_of_ofJsonWithin {levels : Nat} {v : Json} {e : Expr}
    (h : ofJsonWithin levels v = .ok e) : e.height < levels := by
  induction levels generalizing v e with
  | zero => cases h
  | succ levels ih =>
    rw [height_lt_succ_iff]
    unfold ofJsonWithin at h
    split at h
    · cases h
    · obtain rfl := Except.ok.inj h
      simp [operands]
    · obtain rfl := Except.ok.inj h
      simp [operands]
    · split at h
      · cases h
      · rename_i n hlevels _ _ _
        obtain rfl := Nat.succ.inj hlevels
        intro a ha
        obtain ⟨v, hv⟩ := operands_of_ofOperation h a ha
        exact ih hv
    · cases h

theorem ofJson_toJson_of_isWithin {e : Expr} (h : e.IsWithin maxDepth) :
    ofJson e.toJson = .ok e := by
  rw [ofJson, ofJsonWithin_toJson, readBack, if_pos (isWithin_iff.mp h)]

theorem isWithin_of_ofJson {v : Json} {e : Expr} (h : ofJson v = .ok e) : e.IsWithin maxDepth :=
  isWithin_iff.mpr (height_lt_of_ofJsonWithin h)

/--
Written and read, an expression is the same again if no subexpression stands deeper than 64 levels
below the root, and otherwise the depth is what reading it fails for. So an expression that was read
from any value is read again from what it is written as, and written again in the same way.
-/
theorem written_is_read_back :
    (∀ e : Expr, (e.IsWithin maxDepth → ofJson e.toJson = .ok e) ∧
      (¬ e.IsWithin maxDepth → ofJson e.toJson = .error (.tooDeep maxDepth))) ∧
    ∀ (v : Json) (e : Expr), ofJson v = .ok e →
      ofJson e.toJson = .ok e ∧ ∀ again, ofJson e.toJson = .ok again → again.toJson = e.toJson := by
  refine ⟨fun e => ⟨ofJson_toJson_of_isWithin, fun hdeep => ?_⟩, fun v e hread => ?_⟩
  · rw [ofJson, ofJsonWithin_toJson, readBack, if_neg (mt isWithin_iff.mpr hdeep)]
  · have hagain : ofJson e.toJson = .ok e := ofJson_toJson_of_isWithin (isWithin_of_ofJson hread)
    refine ⟨hagain, fun again h => ?_⟩
    rw [hagain] at h
    rw [Except.ok.inj h]

/-! ## As deep as can be -/

/-- A text in upper case some number of times over. -/
def raised : Nat → Expr
  | 0 => literal (.text "leaf")
  | n + 1 => upper (raised n)

theorem height_raised (n : Nat) : (raised n).height = n := by
  induction n with
  | zero => rfl
  | succ n ih => rw [raised, height, ih]

/-- An item of a list at the last position that there is, with a remark that is passed over. -/
def lastItem : Json :=
  .object [("arr", .object [("op", .text "literal"), ("value", Json.texts ["a", "b"])]),
    ("op", .text "index"), ("pos", .number (.natural 18446744073709551615)), ("remark", .null)]

theorem raised_reads_back :
    ofJson (raised 64).toJson = .ok (raised 64) ∧
      ofJson (raised 65).toJson = .error (.tooDeep 64) ∧
      ∃ e, ofJson lastItem = .ok e ∧ e.toJson ≠ lastItem ∧ ofJson e.toJson = .ok e := by
  have hwithin : ∀ n, (raised n).IsWithin maxDepth ↔ n < maxDepth + 1 := fun n => by
    rw [isWithin_iff, height_raised]
  refine ⟨(written_is_read_back.1 _).1 ((hwithin 64).mpr (by decide)),
    (written_is_read_back.1 _).2 (mt (hwithin 65).mp (by decide)), ?_⟩
  have hread : ofJson lastItem =
      .ok (index (literal (.list ["a", "b"])) 18446744073709551615) := rfl
  refine ⟨_, hread, fun heq => ?_, (written_is_read_back.2 _ _ hread).1⟩
  have hlength := congrArg List.length (Json.object.inj heq)
  exact absurd hlength (by decide)

end Paperwork.Expr
