/-!
# Runs that may fail

A run of several steps succeeds exactly when every step does, and fails with the failure of the
first step that fails. The lemmas read this off a `do` block one step at a time.
-/

namespace Paperwork

variable {ε α β : Type}

@[simp] theorem pure_eq_ok_iff {a b : α} : (pure a : Except ε α) = .ok b ↔ a = b := by
  show Except.ok a = .ok b ↔ a = b
  rw [Except.ok.injEq]

theorem bind_eq_ok_iff {run : Except ε α} {next : α → Except ε β} {b : β} :
    run >>= next = .ok b ↔ ∃ a, run = .ok a ∧ next a = .ok b := by
  cases run with
  | error e =>
    show Except.error e = .ok b ↔ _
    simp
  | ok a =>
    show next a = .ok b ↔ _
    simp

theorem bind_eq_error_iff {run : Except ε α} {next : α → Except ε β} {e : ε} :
    run >>= next = .error e ↔ run = .error e ∨ ∃ a, run = .ok a ∧ next a = .error e := by
  cases run with
  | error e' =>
    show Except.error e' = .error e ↔ _
    simp
  | ok a =>
    show next a = .error e ↔ _
    simp

theorem map_eq_ok_iff {run : Except ε α} {f : α → β} {b : β} :
    run.map f = .ok b ↔ ∃ a, run = .ok a ∧ f a = b := by
  cases run <;> simp [Except.map]

theorem map_eq_error_iff {run : Except ε α} {f : α → β} {e : ε} :
    run.map f = .error e ↔ run = .error e := by
  cases run <;> simp [Except.map]

theorem mapError_eq_ok_iff {run : Except ε α} {f : ε → β} {a : α} :
    run.mapError f = .ok a ↔ run = .ok a := by
  cases run with
  | error e =>
    show Except.error (f e) = .ok a ↔ _
    simp
  | ok b =>
    show Except.ok b = .ok a ↔ _
    simp

theorem toOption_eq_some_iff {run : Except ε α} {a : α} : run.toOption = some a ↔ run = .ok a := by
  cases run <;> simp [Except.toOption]

theorem toOption_eq_none_iff {run : Except ε α} : run.toOption = none ↔ ∃ e, run = .error e := by
  cases run <;> simp [Except.toOption]

theorem toOption_mapError (run : Except ε α) (f : ε → β) :
    (run.mapError f).toOption = run.toOption := by
  cases run <;> rfl

end Paperwork
