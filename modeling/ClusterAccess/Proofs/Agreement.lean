import ClusterAccess.Proofs.Trace

/-!
# Two runs that agree

Two results agree if both are values in a relation or both are the same failure. Two traced
computations agree if their results do and both leave the same records and calls behind. Chains of
computations that agree step by step agree as a whole (`Traced.Agrees.bind`).
-/

namespace ClusterAccess

variable {α α' β β' : Type}

inductive Agree (R : α → β → Prop) : Except Failure α → Except Failure β → Prop
  | ok {a : α} {b : β} : R a b → Agree R (.ok a) (.ok b)
  | error (e : Failure) : Agree R (.error e) (.error e)

namespace Agree

variable {R : α → β → Prop} {S : α' → β' → Prop}

theorem refl {R : α → α → Prop} (reflexive : ∀ a, R a a) (x : Except Failure α) : Agree R x x := by
  cases x with
  | ok a => exact .ok (reflexive a)
  | error e => exact .error e

theorem bind {x : Except Failure α} {y : Except Failure β} {f : α → Except Failure α'}
    {g : β → Except Failure β'} (first : Agree R x y) (rest : ∀ a b, R a b → Agree S (f a) (g b)) :
    Agree S (x >>= f) (y >>= g) := by
  cases first with
  | ok related => exact rest _ _ related
  | error e => exact .error e

theorem mapError {x : Except Failure α} {y : Except Failure β} (h : Agree R x y)
    (f : Failure → Failure) : Agree R (x.mapError f) (y.mapError f) := by
  cases h with
  | ok related => exact .ok related
  | error e => exact .error (f e)

theorem eq {x y : Except Failure α} (h : Agree Eq x y) : x = y := by
  cases h with
  | ok same => rw [same]
  | error e => rfl

/-- Results that agree are the same if their values are. -/
theorem eq_of_values {R : α → α → Prop} {x y : Except Failure α} (h : Agree R x y)
    (same : ∀ a b, x = .ok a → y = .ok b → R a b → a = b) : x = y := by
  cases h with
  | ok related => rw [same _ _ rfl rfl related]
  | error e => rfl

end Agree

namespace Traced

structure Agrees (R : α → β → Prop) (t : Traced α) (u : Traced β) : Prop where
  result : Agree R t.result u.result
  records : t.records = u.records
  calls : t.calls = u.calls

namespace Agrees

variable {R : α → β → Prop} {S : α' → β' → Prop}

theorem refl {R : α → α → Prop} (reflexive : ∀ a, R a a) (t : Traced α) : Agrees R t t :=
  ⟨.refl reflexive t.result, rfl, rfl⟩

theorem eq_of_values {R : α → α → Prop} {t u : Traced α} (h : Agrees R t u)
    (same : ∀ a b, t.result = .ok a → u.result = .ok b → R a b → a = b) : t = u := by
  have results : t.result = u.result := h.result.eq_of_values same
  obtain ⟨x, rs, cs⟩ := t
  obtain ⟨y, rs', cs'⟩ := u
  rw [Traced.mk.injEq]
  exact ⟨results, h.records, h.calls⟩

theorem pure {a : α} {b : β} (related : R a b) : Agrees R (Pure.pure a) (Pure.pure b) :=
  ⟨.ok related, rfl, rfl⟩

theorem lift {x : Except Failure α} {y : Except Failure β} (h : Agree R x y) :
    Agrees R (Traced.lift x) (Traced.lift y) :=
  ⟨h, rfl, rfl⟩

theorem bind {t : Traced α} {u : Traced β} {f : α → Traced α'} {g : β → Traced β'}
    (first : Agrees R t u) (rest : ∀ a b, R a b → Agrees S (f a) (g b)) :
    Agrees S (t >>= f) (u >>= g) := by
  obtain ⟨result, records, calls⟩ := first
  cases ended : t.result with
  | error e =>
    rw [ended] at result
    cases ended' : u.result with
    | ok b => rw [ended'] at result; cases result
    | error e' =>
      rw [ended'] at result
      cases result
      rw [bind_of_error ended, bind_of_error ended']
      exact ⟨.error e, records, calls⟩
  | ok a =>
    rw [ended] at result
    cases ended' : u.result with
    | error e' => rw [ended'] at result; cases result
    | ok b =>
      rw [ended'] at result
      cases result with
      | ok related =>
        obtain ⟨restResult, restRecords, restCalls⟩ := rest a b related
        rw [bind_of_ok ended, bind_of_ok ended']
        refine ⟨restResult, ?_, ?_⟩
        · rw [records, restRecords]
        · rw [calls, restCalls]

theorem mapFailure {t : Traced α} {u : Traced β} (h : Agrees R t u) (f : Failure → Failure) :
    Agrees R (t.mapFailure f) (u.mapFailure f) :=
  ⟨h.result.mapError f, h.records, h.calls⟩

end Agrees
end Traced
end ClusterAccess
