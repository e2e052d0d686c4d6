import RecordSql.Fault

/-!
# What results fail with

A result fails only with faults of some sort if no other fault can come out of it. Faults are sorted
by the time at which they arise: those of construction, before a statement is sent, and all others.
What is put together from results that fail only with faults of one sort fails only with those.
-/

set_option autoImplicit false

namespace RecordSql

/-- The faults that arise before a statement is sent. -/
def Fault.Early (fault : Fault) : Prop := fault.isConstruction = true

/-- The faults that arise once a statement was sent. -/
def Fault.Late (fault : Fault) : Prop := fault.isConstruction = false

/-- A result that fails only with faults of some sort. -/
def FailsOnly (p : Fault → Prop) {α : Type} (result : Except Fault α) : Prop :=
  ∀ fault, result = .error fault → p fault

namespace FailsOnly

variable {p : Fault → Prop} {α β : Type}

/-- A result that is there does not fail. -/
theorem ok (a : α) : FailsOnly p (.ok a) := by
  intro fault h
  cases h

/-- A result that fails with a fault of the sort fails only with such. -/
theorem error {fault : Fault} (h : p fault) : FailsOnly p (.error fault : Except Fault α) := by
  intro found heq
  cases heq
  exact h

/-- Of two steps the second is judged only by what the first can give it. -/
theorem bind {result : Except Fault α} {next : α → Except Fault β} (h : FailsOnly p result)
    (hnext : ∀ a, result = .ok a → FailsOnly p (next a)) : FailsOnly p (result.bind next) := by
  cases result with
  | error fault => exact error (h fault rfl)
  | ok a => exact hnext a rfl

/-- What is made of a result fails as the result does. -/
theorem map {result : Except Fault α} (f : α → β) (h : FailsOnly p result) :
    FailsOnly p (result.map f) := by
  cases result with
  | error fault => exact error (h fault rfl)
  | ok a => exact ok (f a)

/-- A list of results fails as one of them does. -/
theorem mapM {f : α → Except Fault β} (h : ∀ a, FailsOnly p (f a)) (xs : List α) :
    FailsOnly p (xs.mapM f) := by
  induction xs with
  | nil => exact ok []
  | cons x xs ih =>
    rw [List.mapM_cons]
    apply bind (h x)
    intro y _
    apply bind ih
    intro ys _
    exact ok (y :: ys)

/-- A loop fails as one of its steps does. -/
theorem foldlM {f : β → α → Except Fault β} (h : ∀ b a, FailsOnly p (f b a)) (xs : List α)
    (b : β) : FailsOnly p (xs.foldlM f b) := by
  induction xs generalizing b with
  | nil => exact ok b
  | cons x xs ih =>
    rw [List.foldlM_cons]
    apply bind (h b x)
    intro next _
    exact ih next

end FailsOnly

end RecordSql
