import ClusterAccess.Proofs.Trace

/-!
# Properties of outcomes

Every failure of a computation has one property and every result another. A chain of computations
has them if each part has them wherever the parts before it may end (`Ends.bind`).
-/

namespace ClusterAccess

variable {ε ε' α β : Type} {bad : ε → Prop} {good : α → Prop} {good' : β → Prop}

/-- Failures are `bad` and results are `good`. -/
def Ends (bad : ε → Prop) (good : α → Prop) : Except ε α → Prop
  | .error e => bad e
  | .ok a => good a

theorem Ends.error {x : Except ε α} {e : ε} (h : Ends bad good x) (failed : x = .error e) :
    bad e := by
  rw [failed] at h
  exact h

theorem Ends.bind {x : Except ε α} {f : α → Except ε β} (first : Ends bad good x)
    (rest : ∀ a, good a → Ends bad good' (f a)) : Ends bad good' (x >>= f) := by
  cases x with
  | error e => exact first
  | ok a => exact rest a first

theorem Ends.map {x : Except ε α} {f : α → β} (first : Ends bad good x)
    (kept : ∀ a, good a → good' (f a)) : Ends bad good' (f <$> x) := by
  cases x with
  | error e => exact first
  | ok a => exact kept a first

/-- A loop keeps what each step keeps. -/
theorem Ends.foldlM {f : β → α → Except ε β} {xs : List α} {b : β} (start : good' b)
    (step : ∀ b, good' b → ∀ a, Ends bad good' (f b a)) : Ends bad good' (xs.foldlM f b) := by
  induction xs generalizing b with
  | nil => exact start
  | cons x xs ih =>
    rw [List.foldlM_cons]
    exact (step b start x).bind fun b' kept => ih kept

end ClusterAccess
