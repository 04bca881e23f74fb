import ClusterAccess.Fault.Report
import ClusterAccess.Proofs.Trace

/-!
# Two runs that end alike

Two results are alike if both are values in a relation or both are failures of one kind, whatever
texts the failures carry. Chains of computations that end alike step by step end alike as a whole
(`EndAlike.bind`, `EndAlike.traced`).
-/

namespace ClusterAccess

/-- The same failure, faults of one rank, or texts that have no bytes. -/
inductive Failure.Akin : Failure → Failure → Prop
  | same (e : Failure) : Akin e e
  | fault {f f' : Fault} : f.rank = f'.rank → Akin (.fault f) (.fault f')
  | unencodable (n start stop n' start' stop' : Nat) :
    Akin (.unencodable n start stop) (.unencodable n' start' stop')

theorem Failure.Akin.label {e e' : Failure} (akin : e.Akin e') : e.label = e'.label := by
  cases akin with
  | same => rfl
  | fault ranks => exact congrArg Rank.label ranks
  | unencodable => rfl

variable {α α' β β' : Type}

inductive EndAlike (R : α → β → Prop) : Except Failure α → Except Failure β → Prop
  | ok {a : α} {b : β} : R a b → EndAlike R (.ok a) (.ok b)
  | error {e e' : Failure} : e.Akin e' → EndAlike R (.error e) (.error e')

namespace EndAlike

variable {R R' : α → β → Prop} {S : α' → β' → Prop} {x : Except Failure α} {y : Except Failure β}

theorem refl {R : α → α → Prop} (reflexive : ∀ a, R a a) (x : Except Failure α) :
    EndAlike R x x := by
  cases x with
  | ok a => exact .ok (reflexive a)
  | error e => exact .error (.same e)

theorem of_eq {x y : Except Failure α} (same : x = y) : EndAlike Eq x y :=
  same ▸ .refl (fun _ => rfl) x

theorem mono (h : EndAlike R x y) (weaker : ∀ a b, R a b → R' a b) : EndAlike R' x y := by
  cases h with
  | ok related => exact .ok (weaker _ _ related)
  | error akin => exact .error akin

theorem bind {f : α → Except Failure α'} {g : β → Except Failure β'} (first : EndAlike R x y)
    (rest : ∀ a b, R a b → EndAlike S (f a) (g b)) : EndAlike S (x >>= f) (y >>= g) := by
  cases first with
  | ok related => exact rest _ _ related
  | error akin => exact .error akin

theorem mapError {f g : Failure → Failure} (h : EndAlike R x y)
    (kept : ∀ e e', e.Akin e' → (f e).Akin (g e')) :
    EndAlike R (x.mapError f) (y.mapError g) := by
  cases h with
  | ok related => exact .ok related
  | error akin => exact .error (kept _ _ akin)

/-- Of traced computations the results count, not what they leave behind. -/
theorem traced {t : Traced α} {u : Traced β} {f : α → Traced α'} {g : β → Traced β'}
    (first : EndAlike R t.result u.result)
    (rest : ∀ a b, R a b → EndAlike S (f a).result (g b).result) :
    EndAlike S (t >>= f).result (u >>= g).result := by
  rw [Traced.result_bind, Traced.result_bind]
  exact first.bind rest

/-- A first step that both computations share. -/
theorem same_first {t : Traced α} {f : α → Traced α'} {g : α → Traced β'}
    (rest : ∀ a, EndAlike S (f a).result (g a).result) :
    EndAlike S (t >>= f).result (t >>= g).result := by
  apply traced (refl (fun _ => rfl) t.result)
  rintro a _ rfl
  exact rest a

/-- Both end in values, or both in failures of one class. -/
theorem cases (h : EndAlike R x y) :
    (∃ a b, x = .ok a ∧ y = .ok b ∧ R a b) ∨
      ∃ e e', x = .error e ∧ y = .error e' ∧ e.label = e'.label := by
  cases h with
  | ok related => exact .inl ⟨_, _, rfl, rfl, related⟩
  | error akin => exact .inr ⟨_, _, rfl, rfl, akin.label⟩

end EndAlike
end ClusterAccess
