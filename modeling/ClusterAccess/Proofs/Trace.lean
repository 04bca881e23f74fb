import ClusterAccess.Fault.Traced

/-!
# Laws of traced computations

What a computation made of parts ends in and what it leaves behind. A lifted result leaves nothing
behind, so a chain of lifted results is the chain of the results.
-/

namespace ClusterAccess

section Results

variable {ε ε' α β : Type}

theorem result_bind_ok {x : Except ε α} {f : α → Except ε β} {b : β} :
    (x >>= f) = .ok b ↔ ∃ a, x = .ok a ∧ f a = .ok b := by
  cases x with
  | error e => simp [bind, Except.bind]
  | ok a => simp [bind, Except.bind]

theorem result_bind_error {x : Except ε α} {f : α → Except ε β} {e : ε} :
    (x >>= f) = .error e ↔ x = .error e ∨ ∃ a, x = .ok a ∧ f a = .error e := by
  cases x with
  | error e => simp [bind, Except.bind]
  | ok a => simp [bind, Except.bind]

theorem result_map_ok {x : Except ε α} {f : α → β} {b : β} :
    f <$> x = .ok b ↔ ∃ a, x = .ok a ∧ f a = b := by
  cases x <;> simp [Functor.map, Except.map]

theorem result_bind_congr {x : Except ε α} {f g : α → Except ε β}
    (same : ∀ a, x = .ok a → f a = g a) : (x >>= f) = (x >>= g) := by
  cases x with
  | error e => rfl
  | ok a => exact same a rfl

theorem mapError_ok {x : Except ε α} {f : ε → ε'} {a : α} :
    x.mapError f = .ok a ↔ x = .ok a := by
  cases x with
  | error e => exact ⟨nofun, nofun⟩
  | ok b => exact ⟨fun h => congrArg _ (Except.ok.inj h), fun h => congrArg _ (Except.ok.inj h)⟩

theorem mapError_id (x : Except ε α) : x.mapError id = x := by
  cases x <;> rfl

theorem mapError_error {x : Except ε α} {f : ε → ε'} {e : ε'} :
    x.mapError f = .error e ↔ ∃ e', x = .error e' ∧ f e' = e := by
  cases x with
  | error e' =>
    constructor
    · exact fun h => ⟨e', rfl, Except.error.inj h⟩
    · rintro ⟨_, same, rfl⟩
      rw [Except.error.inj same]
      rfl
  | ok a => exact ⟨nofun, nofun⟩

end Results

theorem textOf_ok {v : Value} {shown : String} :
    Failure.textOf v = .ok shown ↔ v.isShowable = true ∧ shown = v.display := by
  unfold Failure.textOf
  cases v.isShowable <;> simp [eq_comm]

theorem textOf_error {v : Value} {e : Failure} :
    Failure.textOf v = .error e ↔ v.isShowable = false ∧ e = .scalar .tooLongToWrite := by
  unfold Failure.textOf
  cases v.isShowable <;> simp [eq_comm]

namespace Traced

variable {α β : Type}

@[simp] theorem result_lift (x : Except Failure α) : (lift x).result = x := rfl

@[simp] theorem result_mapFailure (f : Failure → Failure) (t : Traced α) :
    (t.mapFailure f).result = t.result.mapError f := rfl

theorem bind_of_ok {t : Traced α} {a : α} (h : t.result = .ok a) (f : α → Traced β) :
    t >>= f = { result := (f a).result, records := t.records ++ (f a).records,
                calls := t.calls ++ (f a).calls } := by
  show andThen t f = _
  unfold andThen
  rw [h]

theorem bind_of_error {t : Traced α} {e : Failure} (h : t.result = .error e) (f : α → Traced β) :
    t >>= f = { result := .error e, records := t.records, calls := t.calls } := by
  show andThen t f = _
  unfold andThen
  rw [h]

@[simp] theorem lift_ok_bind (a : α) (f : α → Traced β) : lift (.ok a) >>= f = f a :=
  bind_of_ok rfl f

theorem result_bind_ok {t : Traced α} {f : α → Traced β} {b : β} :
    (t >>= f).result = .ok b ↔ ∃ a, t.result = .ok a ∧ (f a).result = .ok b := by
  cases h : t.result with
  | error e => rw [bind_of_error h]; simp
  | ok a => rw [bind_of_ok h]; simp

theorem result_bind_error {t : Traced α} {f : α → Traced β} {e : Failure} :
    (t >>= f).result = .error e ↔
      t.result = .error e ∨ ∃ a, t.result = .ok a ∧ (f a).result = .error e := by
  cases h : t.result with
  | error e => rw [bind_of_error h]; simp
  | ok a => rw [bind_of_ok h]; simp

theorem bind_congr {t : Traced α} {f g : α → Traced β}
    (same : ∀ a, t.result = .ok a → f a = g a) : t >>= f = t >>= g := by
  cases h : t.result with
  | error e => rw [bind_of_error h, bind_of_error h]
  | ok a => rw [bind_of_ok h, bind_of_ok h, same a h]

/-- Computations that log nothing make a computation that logs nothing. -/
theorem records_bind_nil {t : Traced α} {f : α → Traced β} (first : t.records = [])
    (rest : ∀ a, t.result = .ok a → (f a).records = []) : (t >>= f).records = [] := by
  cases h : t.result with
  | error e => rw [bind_of_error h]; exact first
  | ok a => rw [bind_of_ok h, first, rest a h]; rfl

/-- Computations that call no plugin make a computation that calls none. -/
theorem calls_bind_nil {t : Traced α} {f : α → Traced β} (first : t.calls = [])
    (rest : ∀ a, t.result = .ok a → (f a).calls = []) : (t >>= f).calls = [] := by
  cases h : t.result with
  | error e => rw [bind_of_error h]; exact first
  | ok a => rw [bind_of_ok h, first, rest a h]; rfl

/-- What follows without calling a plugin leaves the calls as they were. -/
theorem calls_bind_silent {t : Traced α} {f : α → Traced β} (rest : ∀ a, (f a).calls = []) :
    (t >>= f).calls = t.calls := by
  cases h : t.result with
  | error e => rw [bind_of_error h]
  | ok a => rw [bind_of_ok h, rest a, List.append_nil]

theorem records_nil_of_bind_error {t : Traced α} {f : α → Traced β} {e : Failure}
    (h : (t >>= f).result = .error e) (first : t.records = [])
    (rest : ∀ a, (f a).result = .error e → (f a).records = []) : (t >>= f).records = [] := by
  cases ended : t.result with
  | error e' => rw [bind_of_error ended]; exact first
  | ok a =>
    rw [bind_of_ok ended] at h ⊢
    rw [first, rest a h]
    rfl

end Traced
end ClusterAccess
