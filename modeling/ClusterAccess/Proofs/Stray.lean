import ClusterAccess.Proofs.Trace

/-!
# Stray failures

A caller is told to expect some failures; any other failure strays. A chain of computations strays
where its first failing part does.
-/

namespace ClusterAccess

def Failure.isFaultOrInvalid : Failure → Bool
  | .fault _ => true
  | .invalid _ => true
  | _ => false

variable {expected : Failure → Bool} {α β : Type}

/-- A result is a failure that is not expected. -/
def Strays (expected : Failure → Bool) (x : Except Failure α) (e : Failure) : Prop :=
  x = .error e ∧ expected e = false

theorem not_strays_ok (a : α) (e : Failure) : ¬ Strays expected (.ok a) e := by
  rintro ⟨h, _⟩
  cases h

theorem not_strays_expected {e' : Failure} (h : expected e' = true) (e : Failure) :
    ¬ Strays expected (.error e' : Except Failure α) e := by
  rintro ⟨same, stray⟩
  obtain rfl := Except.error.inj same
  rw [h] at stray
  cases stray

theorem strays_error {e e' : Failure} (stray : expected e' = false) :
    Strays expected (.error e' : Except Failure α) e ↔ e = e' := by
  constructor
  · rintro ⟨h, _⟩
    exact (Except.error.inj h).symm
  · rintro rfl
    exact ⟨rfl, stray⟩

theorem strays_bind {x : Except Failure α} {f : α → Except Failure β} {e : Failure} :
    Strays expected (x >>= f) e ↔
      Strays expected x e ∨ ∃ a, x = .ok a ∧ Strays expected (f a) e := by
  unfold Strays
  rw [result_bind_error]
  constructor
  · rintro ⟨failed | ⟨a, ended, failed⟩, stray⟩
    · exact .inl ⟨failed, stray⟩
    · exact .inr ⟨a, ended, failed, stray⟩
  · rintro (⟨failed, stray⟩ | ⟨a, ended, failed, stray⟩)
    · exact ⟨.inl failed, stray⟩
    · exact ⟨.inr ⟨a, ended, failed⟩, stray⟩

/-- What only goes on with a value strays like the value. -/
theorem strays_bind_total {x : Except Failure α} {f : α → Except Failure β} {e : Failure}
    (total : ∀ a, ¬ Strays expected (f a) e) :
    Strays expected (x >>= f) e ↔ Strays expected x e := by
  rw [strays_bind]
  constructor
  · rintro (strays | ⟨a, _, strays⟩)
    · exact strays
    · exact (total a strays).elim
  · exact .inl

theorem strays_bind_pure {x : Except Failure α} {f : α → β} {e : Failure} :
    Strays expected (x >>= fun a => pure (f a)) e ↔ Strays expected x e :=
  strays_bind_total fun _ => not_strays_ok _ _

theorem strays_map {x : Except Failure α} {f : α → β} {e : Failure} :
    Strays expected (f <$> x) e ↔ Strays expected x e := by
  cases x with
  | error e' => simp [Strays, Functor.map, Except.map]
  | ok a => simp [Strays, Functor.map, Except.map]

theorem Traced.strays_bind {t : Traced α} {f : α → Traced β} {e : Failure} :
    Strays expected (t >>= f).result e ↔
      Strays expected t.result e ∨ ∃ a, t.result = .ok a ∧ Strays expected (f a).result e := by
  rw [result_bind]
  exact ClusterAccess.strays_bind

theorem Traced.strays_bind_total {t : Traced α} {f : α → Traced β} {e : Failure}
    (total : ∀ a, ¬ Strays expected (f a).result e) :
    Strays expected (t >>= f).result e ↔ Strays expected t.result e := by
  rw [result_bind]
  exact ClusterAccess.strays_bind_total total

theorem Traced.strays_bind_pure {t : Traced α} {f : α → β} {e : Failure} :
    Strays expected (t >>= fun a => pure (f a)).result e ↔ Strays expected t.result e :=
  strays_bind_total fun _ => not_strays_ok _ _

end ClusterAccess
