import ClusterAccess.Proofs.Connection.Derivation
import ClusterAccess.Proofs.Resolution.Steps

/-!
# Who may turn verification off

A resolved profile is without verification exactly if its cluster says so by the truth value, and
then there is one warning about its endpoint. A resolution that fails warns only in one case: the
profile was ready, and the name of its context is too long to be logged (`verification_audited`).
-/

namespace ClusterAccess.Kubeconfig

variable {s : Steps} {w : World} {d : Document} {context name userAgent : Value}

theorem Steps.Taken.verify_profile (h : s.Taken w d name userAgent) :
    s.profile.verify = !skipsVerification s.cluster := by
  obtain ⟨_, _, _, _, verify, _⟩ := profile_ok.mp h.checked
  unfold Steps.profile
  split
  · rename_i skips
    rw [skips]
    rfl
  · rename_i keeps
    rw [Bool.not_eq_true] at keeps
    rw [keeps, verify]
    rfl

theorem Steps.warnings_warnings (s : Steps) : Logging.warnings s.warnings = s.warnings := by
  unfold Steps.warnings
  split <;> rfl

theorem Steps.Taken.warnings_nil_iff (h : s.Taken w d name userAgent) :
    s.warnings = [] ↔ s.profile.verify = true := by
  rw [h.verify_profile]
  unfold Steps.warnings
  cases skipsVerification s.cluster <;> simp

theorem Steps.Complete.selected_cluster (h : s.Complete w d context userAgent) :
    selected? d context "clusters" "cluster" = some s.cluster :=
  selected?_of_referenced h.found h.taken.cluster

theorem warnings_loadedRecord (path : FilePath) (name : Value) (shown : String) (p : Profile)
    (method : AuthMethod) : Logging.warnings [loadedRecord path name shown p method] = [] := rfl

/-- The records warn once of a profile without verification, and of none with it. -/
def WarnsOf (rs : List Logging.Record) (p : Profile) : Prop :=
  if p.verify then Logging.warnings rs = []
  else ∃ r, Logging.warnings rs = [r] ∧ p.AnnouncedBy r

theorem Steps.Taken.warnsOf (h : s.Taken w d name userAgent) {rs : List Logging.Record}
    (same : Logging.warnings rs = s.warnings) : WarnsOf rs s.profile := by
  unfold WarnsOf
  rw [same]
  split
  · rename_i verified
    exact h.warnings_nil_iff.mpr verified
  · rename_i unverified
    have skips : skipsVerification s.cluster = true := by
      simpa [h.verify_profile] using unverified
    refine ⟨s.checked.verificationWarning, ?_, rfl, ?_⟩
    · unfold Steps.warnings
      rw [if_pos skips]
    · rw [s.profile_endpoint]
      rfl

theorem resolve_ok {p : Profile} (h : (resolve w d context userAgent).result = .ok p) :
    ∃ (s : Steps) (shown : String), s.Complete w d context userAgent ∧ p = s.profile ∧
      Failure.textOf (contextName d context) = .ok shown := by
  rcases complete_or_silent w d context userAgent with ⟨s, complete⟩ | ⟨e, failed, _⟩
  · cases written : Failure.textOf (contextName d context) with
    | error e =>
      rw [resolve_of_unwritable complete written] at h
      cases h
    | ok shown =>
      rw [resolve_of_complete complete written] at h
      exact ⟨s, shown, complete, (Except.ok.inj h).symm, rfl⟩
  · rw [h] at failed
    cases failed

theorem records_of_complete {shown : String} (complete : s.Complete w d context userAgent)
    (written : Failure.textOf (contextName d context) = .ok shown) :
    Logging.warnings (resolve w d context userAgent).records = s.warnings := by
  rw [resolve_of_complete complete written, Logging.warnings_append, s.warnings_warnings,
    warnings_loadedRecord, List.append_nil]

/-- A profile without verification was ready, but its context has no text to log. -/
def WarnsInVain (w : World) (d : Document) (context userAgent : Value) : Prop :=
  (contextName d context).isShowable = false ∧ ∃ selected p method,
    find d.entries "contexts" "context" (contextName d context) = .ok (some selected) ∧
    (resolveContext w d selected (contextName d context) userAgent).result = .ok (p, method) ∧
    p.verify = false

theorem error_warns_iff {e : Failure} (h : (resolve w d context userAgent).result = .error e) :
    Logging.warnings (resolve w d context userAgent).records ≠ [] ↔
      WarnsInVain w d context userAgent := by
  constructor
  · intro warned
    -- With all steps taken, only the text of the context's name can be missing.
    rcases complete_or_silent w d context userAgent with ⟨s, complete⟩ | ⟨_, _, silent⟩
    · cases written : Failure.textOf (contextName d context) with
      | ok shown =>
        rw [resolve_of_complete complete written] at h
        cases h
      | error e' =>
        rw [resolve_of_unwritable complete written] at warned
        dsimp only at warned
        rw [s.warnings_warnings] at warned
        refine ⟨(textOf_error.mp written).1, s.selected, s.profile, s.method, complete.found, ?_, ?_⟩
        · rw [resolveContext_of_taken complete.taken]
        · rw [← Bool.not_eq_true]
          exact fun verified => warned (complete.taken.warnings_nil_iff.mpr verified)
    · rw [silent] at warned
      exact absurd rfl warned
  · rintro ⟨unshowable, selected, p, method, found, resolved, unverified⟩
    obtain ⟨s, rfl, taken⟩ := resolveContext_ok resolved
    rw [resolveContext_of_taken taken] at resolved
    obtain ⟨rfl, _⟩ := Prod.mk.inj (Except.ok.inj resolved)
    have complete : s.Complete w d context userAgent :=
      ⟨truthy_of_unshowable unshowable, found, taken⟩
    rw [resolve_of_unwritable complete (textOf_error.mpr ⟨unshowable, rfl⟩)]
    dsimp only
    rw [s.warnings_warnings]
    intro silent
    rw [taken.warnings_nil_iff.mp silent] at unverified
    cases unverified

/-- What a resolved profile says about verification, and what is derived from it. -/
theorem verification_audited (w : World) (d : Document) (context userAgent : Value) :
    (∀ p, (resolve w d context userAgent).result = .ok p →
      (∃ cluster, selected? d context "clusters" "cluster" = some cluster ∧
        (p.verify = false ↔ Value.field cluster "insecure-skip-tls-verify" = .bool true)) ∧
      WarnsOf (resolve w d context userAgent).records p ∧
      ∀ (s : Connection.Session) (actions : List Connection.Action),
        s.profiles = [Finished.ofValue p] → s.Derives actions →
        s.Audited (resolve w d context userAgent).records actions) ∧
    (∀ e, (resolve w d context userAgent).result = .error e →
      (Logging.warnings (resolve w d context userAgent).records ≠ [] ↔
        WarnsInVain w d context userAgent)) := by
  refine ⟨fun p h => ?_, fun e h => error_warns_iff h⟩
  obtain ⟨s, shown, complete, rfl, written⟩ := resolve_ok h
  have warns : WarnsOf (resolve w d context userAgent).records s.profile :=
    complete.taken.warnsOf (records_of_complete complete written)
  refine ⟨⟨s.cluster, complete.selected_cluster, ?_⟩, warns, fun session actions only derives => ?_⟩
  · rw [complete.taken.verify_profile, ← skipsVerification_iff]
    cases skipsVerification s.cluster <;> simp
  · refine Connection.Session.run_audited (fun x member unverified => ?_) derives
    rw [only, List.mem_singleton] at member
    subst member
    unfold WarnsOf at warns
    rw [if_neg (by rw [show s.profile.verify = false from unverified]; decide)] at warns
    obtain ⟨r, warned, announces⟩ := warns
    have listed : r ∈ Logging.warnings (resolve w d context userAgent).records := by
      rw [warned]
      exact List.mem_singleton_self r
    exact ⟨r, (List.mem_filter.mp listed).1, announces⟩

def unverifiedCluster : Entries :=
  [(.str "server", .str "https://h"), (.str "insecure-skip-tls-verify", .bool true)]

def tokenUser : Entries := [(.str "token", .str "t")]

/-- A document whose context is named by an integer of 3600 hexadecimal digits. -/
def hexContext : Document :=
  .single (.int (16 ^ 3600 - 1)) unverifiedCluster tokenUser

theorem hexContext_fails :
    (∃ e, (resolve {} hexContext .null (.str "ua")).result = .error e) ∧
      (Logging.warnings (resolve {} hexContext .null (.str "ua")).records).length = 1 := by
  have failed : (resolve {} hexContext .null (.str "ua")).result.isOk = false := by decide +kernel
  refine ⟨?_, by decide +kernel⟩
  cases ended : (resolve {} hexContext .null (.str "ua")).result with
  | ok p => rw [ended] at failed; cases failed
  | error e => exact ⟨e, rfl⟩

def unverifiedProfile : Profile :=
  { endpoint := "https://h", credentials := .header "Bearer t", trust := none, userAgent := "ua",
    verify := false, impersonate := .null, groups := [] }

theorem unverified_document_audited :
    let d := Document.single (.str "c") unverifiedCluster tokenUser
    let x := Finished.ofValue unverifiedProfile
    (resolve {} d .null (.str "ua")).result = .ok unverifiedProfile ∧
      WarnsOf (resolve {} d .null (.str "ua")).records unverifiedProfile ∧
      Connection.Session.Audited (resolve {} d .null (.str "ua")).records { profiles := [x] }
        [.impersonate x (.str "jane") (.list []), .trustAnyone x] ∧
      WarnsInVain {} hexContext .null (.str "ua") := by
  intro d x
  have resolved : (resolve {} d .null (.str "ua")).result = .ok unverifiedProfile := by cbv
  obtain ⟨_, warns, audited⟩ := (verification_audited {} d .null (.str "ua")).1 _ resolved
  obtain ⟨⟨e, failed⟩, warned⟩ := hexContext_fails
  refine ⟨resolved, warns, audited _ _ rfl ?_, ?_⟩
  · exact ⟨List.mem_singleton_self x, List.mem_append_left _ (List.mem_singleton_self x), trivial⟩
  · refine ((verification_audited {} hexContext .null (.str "ua")).2 e failed).mp fun silent => ?_
    rw [silent] at warned
    cases warned

theorem failed_resolution_warns :
    ∃ e, (resolve {} hexContext .null (.str "ua")).result = .error e ∧
      Logging.warnings (resolve {} hexContext .null (.str "ua")).records ≠ [] := by
  obtain ⟨⟨e, failed⟩, warned⟩ := hexContext_fails
  refine ⟨e, failed, fun silent => ?_⟩
  rw [silent] at warned
  cases warned

end ClusterAccess.Kubeconfig
