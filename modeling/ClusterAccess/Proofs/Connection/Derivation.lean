import ClusterAccess.Connection.Session
import ClusterAccess.Proofs.Connection.Building
import ClusterAccess.Proofs.Trace

/-!
# Sessions of derived profiles

In a session whose actions all derive profiles from earlier ones, every profile without verification
was announced by a warning about its endpoint, and there is one warning for each time verification
was turned off. Deriving never turns it on again, and building takes it over (`run_audited`).
-/

namespace ClusterAccess

def Logging.warnings (rs : List Record) : List Record :=
  rs.filter fun r => r.level == warning

theorem Logging.warnings_append (rs ss : List Record) :
    warnings (rs ++ ss) = warnings rs ++ warnings ss :=
  List.filter_append ..

/-- A record that warns of the endpoint of a profile. -/
def Profile.AnnouncedBy (p : Profile) (r : Logging.Record) : Prop :=
  r.level = Logging.warning ∧ r.fields.lookup "api_server" = some (.str p.endpoint)

theorem Profile.announced_by_warning (p : Profile) : p.AnnouncedBy p.verificationWarning :=
  ⟨rfl, rfl⟩

namespace Finished

variable {x y : Finished Profile}

theorem derive_value {field : String} {p : Profile} (h : x.derive field p = .ok y) :
    y.value = p := by
  unfold derive at h
  obtain ⟨_, _, h⟩ := ClusterAccess.result_bind_ok.mp h
  rw [← Except.ok.inj h]

theorem impersonating_value {user groups : Value} (h : x.impersonating user groups = .ok y) :
    ∃ members, groups.members? = some members ∧
      y.value = x.value.withImpersonation user members := by
  unfold impersonating at h
  obtain ⟨p, derived, h⟩ := ClusterAccess.result_bind_ok.mp h
  unfold Profile.impersonating at derived
  split at derived
  · rename_i members given
    obtain rfl := Except.ok.inj derived
    exact ⟨members, given, derive_value h⟩
  · cases derived

theorem trustingAnyone_records (x : Finished Profile) :
    x.trustingAnyone.records = [x.value.verificationWarning] := rfl

theorem trustingAnyone_value (h : x.trustingAnyone.result = .ok y) :
    y.value = x.value.withoutVerification := by
  unfold trustingAnyone at h
  obtain ⟨p, unverified, h⟩ := Traced.result_bind_ok.mp h
  obtain rfl := Except.ok.inj unverified
  exact derive_value h

/-- The second profile is derived from the first one, in any number of steps. -/
inductive LeadsTo (x : Finished Profile) : Finished Profile → Prop
  | start : LeadsTo x x
  | impersonating {y z : Finished Profile} {user groups : Value} :
    LeadsTo x y → y.impersonating user groups = .ok z → LeadsTo x z
  | trustingAnyone {y z : Finished Profile} :
    LeadsTo x y → y.trustingAnyone.result = .ok z → LeadsTo x z

/-- What is derived from a profile without verification is without it as well. -/
theorem LeadsTo.unverified (h : x.LeadsTo y) (unverified : x.value.verify = false) :
    y.value.verify = false := by
  induction h with
  | start => exact unverified
  | impersonating _ derived ih =>
    obtain ⟨members, _, value⟩ := impersonating_value derived
    rw [value]
    exact ih
  | trustingAnyone _ derived _ =>
    rw [trustingAnyone_value derived]
    rfl

end Finished

namespace Connection

/-- An action that derives a profile from one of the session. -/
def Action.DerivesFrom (s : Session) : Action → Prop
  | .impersonate x _ _ => x ∈ s.profiles
  | .trustAnyone x => x ∈ s.profiles
  | _ => False

def Action.turnsOff : Action → Bool
  | .trustAnyone _ => true
  | _ => false

namespace Session

/-- Every action derives a profile from one that is there at its time. -/
def Derives (s : Session) : List Action → Prop
  | [] => True
  | a :: rest => a.DerivesFrom s ∧ (s.step a).1.Derives rest

def records (s : Session) : List Action → List Logging.Record
  | [] => []
  | a :: rest => (s.step a).2.records ++ (s.step a).1.records rest

/-- Every profile without verification was announced in the log. -/
def Announced (log : List Logging.Record) (s : Session) : Prop :=
  ∀ x ∈ s.profiles, x.value.verify = false → ∃ r ∈ log, x.value.AnnouncedBy r

theorem mem_extend {s : Session} {t : Traced (Finished Profile)} {x : Finished Profile}
    (h : x ∈ (s.extend t).1.profiles) : x ∈ s.profiles ∨ t.result = .ok x := by
  unfold extend at h
  dsimp only at h
  split at h
  · rename_i y made
    rcases List.mem_append.mp h with old | new
    · exact .inl old
    · exact .inr (by rw [made, List.mem_singleton.mp new])
  · exact .inl h

theorem extend_records (s : Session) (t : Traced (Finished Profile)) :
    (s.extend t).2.records = t.records := by
  show (Traced.andThen t _).records = _
  unfold Traced.andThen
  split
  · rfl
  · exact List.append_nil _

theorem step_announced {log : List Logging.Record} {s : Session} {a : Action}
    (announced : s.Announced log) (derives : a.DerivesFrom s) :
    (s.step a).1.Announced (log ++ (s.step a).2.records) := by
  intro x member unverified
  have kept : x ∈ s.profiles → ∃ r ∈ log ++ (s.step a).2.records, x.value.AnnouncedBy r := by
    intro old
    obtain ⟨r, logged, announces⟩ := announced x old unverified
    exact ⟨r, List.mem_append_left _ logged, announces⟩
  cases a with
  | impersonate source user groups =>
    rcases mem_extend member with old | made
    · exact kept old
    · obtain ⟨members, _, value⟩ := Finished.impersonating_value made
      rw [value] at unverified ⊢
      obtain ⟨r, logged, announces⟩ := announced source derives unverified
      exact ⟨r, List.mem_append_left _ logged, announces⟩
  | trustAnyone source =>
    rcases mem_extend member with old | made
    · exact kept old
    · have value := Finished.trustingAnyone_value made
      rw [value]
      refine ⟨source.value.verificationWarning, List.mem_append_right _ ?_,
        source.value.announced_by_warning⟩
      change _ ∈ (s.extend source.trustingAnyone).2.records
      rw [extend_records, Finished.trustingAnyone_records]
      exact List.mem_singleton_self _
  | _ => exact derives.elim

theorem run_announced {log : List Logging.Record} {s : Session} {actions : List Action}
    (announced : s.Announced log) (derives : s.Derives actions) :
    (s.run actions).Announced (log ++ s.records actions) := by
  -- The log grows with the session, so the induction is for every log.
  induction actions generalizing s log with
  | nil =>
    rw [records, List.append_nil]
    exact announced
  | cons a rest ih =>
    obtain ⟨first, others⟩ := derives
    have step := ih (step_announced announced first) others
    rwa [List.append_assoc] at step

theorem step_warnings {s : Session} {a : Action} (derives : a.DerivesFrom s) :
    (Logging.warnings (s.step a).2.records).length = if a.turnsOff then 1 else 0 := by
  cases a with
  | impersonate source user groups =>
    change (Logging.warnings (s.extend (Traced.lift _)).2.records).length = 0
    rw [extend_records]
    rfl
  | trustAnyone source =>
    change (Logging.warnings (s.extend source.trustingAnyone).2.records).length = 1
    rw [extend_records]
    rfl
  | _ => exact derives.elim

/-- There is one warning for each time that verification is turned off. -/
theorem warnings_length {s : Session} {actions : List Action} (derives : s.Derives actions) :
    (Logging.warnings (s.records actions)).length = actions.countP Action.turnsOff := by
  induction actions generalizing s with
  | nil => rfl
  | cons a rest ih =>
    obtain ⟨first, others⟩ := derives
    rw [records, Logging.warnings_append, List.length_append, step_warnings first, ih others,
      List.countP_cons, Nat.add_comm]

/-- What is derived in a session stays true to what was announced, first in the log and then by the
session. -/
structure Audited (log : List Logging.Record) (s : Session) (actions : List Action) : Prop where
  announced : (s.run actions).Announced (log ++ s.records actions)
  counted : (Logging.warnings (s.records actions)).length = actions.countP Action.turnsOff
  unverified : ∀ x ∈ (s.run actions).profiles, x.value.verify = false →
    ∀ y, x.LeadsTo y → y.value.verify = false
  built : ∀ x ∈ (s.run actions).profiles, ∀ store c, (build store x.value).2 = .ok c →
    c.host = x.value.endpoint ∧ c.verify = x.value.verify

theorem run_audited {log : List Logging.Record} {s : Session} {actions : List Action}
    (announced : s.Announced log) (derives : s.Derives actions) : s.Audited log actions where
  announced := run_announced announced derives
  counted := warnings_length derives
  unverified := fun _ _ off _ leads => leads.unverified off
  built := fun _ _ _ _ made =>
    have ⟨host, verify, _⟩ := build_ok made
    ⟨host, verify⟩

end Session

end Connection
end ClusterAccess
