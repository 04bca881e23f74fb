import ClusterAccess.Kubeconfig.Resolve
import ClusterAccess.Proofs.Assembly
import ClusterAccess.Proofs.Resolution.Methods

/-!
# The steps of a resolution

`Steps` holds what each step of a resolution comes to. `resolve_of_complete` says what a resolution
is that takes all steps; `complete_or_silent` says that any other one fails and logs nothing.
-/

namespace ClusterAccess.Kubeconfig

def contextName (d : Document) (context : Value) : Value :=
  context.orElse (Value.field d.entries "current-context")

/-- The name under which a context refers to an entry; one left out is the empty name. -/
def referredName (selected : Entries) (key : String) : Value :=
  (Value.field? selected key).getD (.str "")

/-- The entries that the selected context refers to in a section. -/
def selected? (d : Document) (context : Value) (sectionName key : String) : Option Entries :=
  match find d.entries "contexts" "context" (contextName d context) with
  | .ok (some selected) =>
    match find d.entries sectionName key (referredName selected key) with
    | .ok found => found
    | .error _ => none
  | _ => none

/-- Whether a cluster asks for no verification. Only the truth value counts. -/
def skipsVerification (cluster : Entries) : Bool :=
  match Value.field cluster "insecure-skip-tls-verify" with
  | .bool true => true
  | _ => false

theorem skipsVerification_iff {cluster : Entries} :
    skipsVerification cluster = true ↔
      Value.field cluster "insecure-skip-tls-verify" = .bool true := by
  unfold skipsVerification
  split
  · rename_i h
    simp [h]
  · rename_i other
    simpa using other

/-- A document with one context, one cluster and one user. -/
def Document.single (name : Value) (cluster user : Entries) : Document :=
  { path := FilePath.ofString "config"
    entries := [(.str "current-context", name),
      (.str "contexts", .list [.map [(.str "name", name),
        (.str "context", .map [(.str "cluster", .str "k"), (.str "user", .str "u")])]]),
      (.str "clusters", .list [.map [(.str "name", .str "k"), (.str "cluster", .map cluster)]]),
      (.str "users", .list [.map [(.str "name", .str "u"), (.str "user", .map user)]])] }

/-- A document with one user, and a cluster that names its server. -/
def Document.ofUser (user : Entries) : Document :=
  .single (.str "c") [(.str "server", .str "https://h")] user

/-- What the steps of a resolution come to. -/
structure Steps where
  selected : Entries
  clusterName : Value
  cluster : Entries
  userName : Value
  user : Entries
  groups : List Value
  trust : Option TrustSource
  credentials : Credentials
  method : AuthMethod
  checked : Profile

namespace Steps

def profile (s : Steps) : Profile :=
  if skipsVerification s.cluster then s.checked.withoutVerification else s.checked

/-- The warning about a profile without verification. -/
def warnings (s : Steps) : List Logging.Record :=
  if skipsVerification s.cluster then [s.checked.verificationWarning] else []

/-- The steps are those of a selected context. -/
structure Taken (s : Steps) (w : World) (d : Document) (name userAgent : Value) : Prop where
  cluster : referenced d.entries s.selected "clusters" "cluster" "Cluster" =
    .ok (s.clusterName, s.cluster)
  user : referenced d.entries s.selected "users" "user" "User" = .ok (s.userName, s.user)
  server : (Value.field s.cluster "server").truthy = true
  groups : actingGroups s.user s.userName = .ok s.groups
  trust : authorities w s.cluster d.path.parent = .ok s.trust
  credentials : (Kubeconfig.credentials w s.user name d.path.parent).result =
    .ok (s.credentials, s.method)
  checked : Kubeconfig.profile (Value.field s.cluster "server") s.credentials s.trust userAgent
    s.user s.groups = .ok s.checked

theorem profile_endpoint (s : Steps) : s.profile.endpoint = s.checked.endpoint := by
  unfold profile
  split <;> rfl

end Steps

/-! ### What single steps say -/

theorem tenTo_pos (n : Nat) : 0 < Number.tenTo n := Nat.pow_pos (by decide)

/-- A value that is too long to be written counts as given. -/
theorem truthy_of_unshowable {v : Value} (h : v.isShowable = false) : v.truthy = true := by
  cases v with
  | int i =>
    have long : ¬ i.natAbs < Number.tenTo Value.maxDigits := by simpa [Value.isShowable] using h
    have given : i ≠ 0 := fun zero => long (by rw [zero]; exact tenTo_pos _)
    simpa [Value.truthy] using given
  | list xs => cases xs <;> simp_all [Value.isShowable, Value.areShowable, Value.truthy]
  | tuple xs => cases xs <;> simp_all [Value.isShowable, Value.areShowable, Value.truthy]
  | set xs => cases xs <;> simp_all [Value.isShowable, Value.areShowable, Value.truthy]
  | map es => cases es <;> simp_all [Value.isShowable, Value.areEntriesShowable, Value.truthy]
  | _ => first | rfl | cases h

theorem find_of_field {document document' : Entries} {sectionName key : String}
    {name : Value}
    (kept : Value.field document' sectionName = Value.field document sectionName) :
    find document' sectionName key name = find document sectionName key name := by
  unfold find elements
  rw [kept]

theorem find_of_elements {document : Entries} {sectionName key : String} {name : Value}
    {xs : List Value} (listed : elements document sectionName = .ok xs) :
    find document sectionName key name =
      (xs.findSome? (isNamed name)).elim (.ok none) fun entry => some <$> item entry key name := by
  unfold find
  rw [listed]
  dsimp only [bind, Except.bind]
  cases xs.findSome? (isNamed name) <;> rfl

theorem referenced_of_find_eq {document document' selected : Entries} {sectionName key kind : String}
    (found : find document' sectionName key (referredName selected key) =
      find document sectionName key (referredName selected key)) :
    referenced document' selected sectionName key kind =
      referenced document selected sectionName key kind := by
  change (find document' sectionName key (referredName selected key) >>= _) = _
  rw [found]
  rfl

theorem referenced_ok {document selected entries : Entries} {sectionName key kind : String}
    {name : Value} (h : referenced document selected sectionName key kind = .ok (name, entries)) :
    name = referredName selected key ∧ find document sectionName key name = .ok (some entries) := by
  unfold referenced at h
  obtain ⟨found, read, h⟩ := result_bind_ok.mp h
  cases found with
  | none =>
    obtain ⟨shown, _, h⟩ := result_bind_ok.mp h
    cases h
  | some es =>
    obtain ⟨rfl, rfl⟩ := Prod.mk.inj (Except.ok.inj h)
    exact ⟨rfl, read⟩

theorem selected?_of_referenced {d : Document} {context name : Value} {selected entries : Entries}
    {sectionName key kind : String}
    (found : find d.entries "contexts" "context" (contextName d context) = .ok (some selected))
    (h : referenced d.entries selected sectionName key kind = .ok (name, entries)) :
    selected? d context sectionName key = some entries := by
  obtain ⟨rfl, referred⟩ := referenced_ok h
  unfold selected?
  rw [found]
  dsimp only
  rw [referred]

/-- A profile of a document takes its values from the cluster and the user, and verifies. -/
theorem profile_ok {server userAgent : Value} {creds : Credentials} {trust : Option TrustSource}
    {user : Entries} {groups : List Value} {p : Profile} :
    profile server creds trust userAgent user groups = .ok p ↔
      Lax.text server = .ok p.endpoint ∧ p.credentials = creds ∧ p.trust = trust ∧
      Lax.text userAgent = .ok p.userAgent ∧ p.verify = true ∧
      Profile.checkUser (Value.field user "as") = .ok p.impersonate ∧
      Profile.checkGroups (.list groups) = .ok p.groups := by
  have parts : Profile.assemble
      (Check.within (.field "api_server_endpoint") (Lax.text server)) (.ok creds) (.ok trust)
      (Check.within (.field "user_agent") (Lax.text userAgent)) (.ok true)
      (Check.within (.field "impersonate") (Profile.checkUser (Value.field user "as")))
      (Check.within (.field "impersonate_groups") (Profile.checkGroups (.list groups))) = .ok p ↔
      _ := Profile.assemble_ok
  simp only [Check.within_ok, Except.ok.injEq, eq_comm (a := creds), eq_comm (a := trust),
    eq_comm (a := true)] at parts
  rw [← parts]
  unfold profile
  split
  · rename_i assembled
    rw [assembled, Except.ok.injEq, Except.ok.injEq]
  · rename_i assembled
    rw [assembled]
    simp

theorem profile_error {server userAgent : Value} {creds : Credentials} {trust : Option TrustSource}
    {user : Entries} {groups : List Value} {e : Failure}
    (h : profile server creds trust userAgent user groups = .error e) :
    ∃ issues, e = .invalid issues := by
  unfold profile at h
  split at h
  · cases h
  · exact ⟨_, (Except.error.inj h).symm⟩

theorem applyVerification_eq (cluster : Entries) (p : Profile) :
    applyVerification cluster p =
      { result := .ok (if skipsVerification cluster then p.withoutVerification else p)
        records := if skipsVerification cluster then [p.verificationWarning] else [] } := by
  by_cases skips : skipsVerification cluster = true
  · unfold applyVerification
    rw [skipsVerification_iff.mp skips, if_pos skips, if_pos skips]
    rfl
  · rw [if_neg skips, if_neg skips]
    unfold applyVerification
    split
    · rename_i h
      exact absurd (skipsVerification_iff.mpr h) skips
    · rfl

def assembled (w : World) (d : Document) (cluster user : Entries) (name userAgent : Value)
    (groups : List Value) : Traced (Profile × AuthMethod) := do
  let trust ← Traced.lift (authorities w cluster d.path.parent)
  let (creds, method) ← credentials w user name d.path.parent
  let p ← Traced.lift (profile (Value.field cluster "server") creds trust userAgent user groups)
  pure (p, method)

def resolveFound (w : World) (d : Document) (clusterName : Value) (cluster : Entries)
    (userName : Value) (user : Entries) (name userAgent : Value) : Traced (Profile × AuthMethod) :=
  if !(Value.field cluster "server").truthy then do
    let shown ← Traced.lift (Failure.textOf clusterName)
    Traced.fail (Failure.kubeconfig ("Cluster '" ++ shown ++ "' has no server"))
  else do
    let groups ← Traced.lift (actingGroups user userName)
    let (p, method) ← Traced.mapFailure invalidValues
      (assembled w d cluster user name userAgent groups)
    pure (← applyVerification cluster p, method)

theorem resolveContext_eq (w : World) (d : Document) (selected : Entries)
    (name userAgent : Value) :
    resolveContext w d selected name userAgent = (do
      let (clusterName, cluster) ←
        Traced.lift (referenced d.entries selected "clusters" "cluster" "Cluster")
      let (userName, user) ←
        Traced.lift (referenced d.entries selected "users" "user" "User")
      resolveFound w d clusterName cluster userName user name userAgent) := rfl

def unknownContext (d : Document) (name : Value) : Traced Profile := do
  let shown ← Traced.lift (Failure.textOf name)
  Traced.fail (.fault (FaultOf.kubeconfig
    (.str ("Context '" ++ shown ++ "' not found in kubeconfig")) (.str d.path.text)))

/-- What a resolution goes on with once its context is found. -/
def finish (w : World) (d : Document) (selected : Entries) (name userAgent : Value) :
    Traced Profile := do
  let (p, method) ← Traced.mapFailure (situate d.path name)
    (resolveContext w d selected name userAgent)
  let shown ← Traced.lift (Failure.textOf name)
  Traced.log (loadedRecord d.path name shown p method)
  pure p

theorem resolve_eq (w : World) (d : Document) (context userAgent : Value) :
    resolve w d context userAgent =
      if !(contextName d context).truthy then
        Traced.fail (.fault (FaultOf.kubeconfig
          (.str "No context selected and current-context is not set") (.str d.path.text)))
      else (do
        let found ← Traced.mapFailure (withPath d.path)
          (Traced.lift (find d.entries "contexts" "context" (contextName d context)))
        match found with
        | none => unknownContext d (contextName d context)
        | some selected => finish w d selected (contextName d context) userAgent) := rfl

/-! ### Calls of the plugin -/

theorem assembled_calls {w : World} {d : Document} {cluster user : Entries} {name userAgent : Value}
    {groups : List Value} {trust : Option TrustSource}
    (trusted : authorities w cluster d.path.parent = .ok trust) :
    (assembled w d cluster user name userAgent groups).calls =
      (credentials w user name d.path.parent).calls := by
  unfold assembled
  rw [trusted, Traced.lift_ok_bind]
  refine Traced.calls_bind_silent fun creds => ?_
  exact Traced.calls_bind_nil rfl fun _ _ => rfl

/-- Nothing is called once the profile is assembled. -/
theorem verified_calls (t : Traced (Profile × AuthMethod)) (cluster : Entries) :
    (do
      let (p, method) ← Traced.mapFailure invalidValues t
      pure (← applyVerification cluster p, method)).calls = t.calls := by
  refine Traced.calls_bind_silent fun checked => ?_
  dsimp only
  rw [applyVerification_eq]
  exact Traced.calls_bind_nil rfl fun _ _ => rfl

theorem finish_calls (w : World) (d : Document) (selected : Entries) (name userAgent : Value) :
    (finish w d selected name userAgent).calls =
      (resolveContext w d selected name userAgent).calls := by
  refine Traced.calls_bind_silent fun checked => ?_
  refine Traced.calls_bind_nil rfl fun shown _ => ?_
  exact Traced.calls_bind_nil rfl fun _ _ => rfl

/-! ### Resolutions that take all steps -/

variable {s : Steps} {w : World} {d : Document} {context name userAgent : Value}

theorem assembled_of_taken (h : s.Taken w d name userAgent) :
    assembled w d s.cluster s.user name userAgent s.groups =
      { result := .ok (s.checked, s.method)
        calls := (credentials w s.user name d.path.parent).calls } := by
  unfold assembled
  rw [h.trust, Traced.lift_ok_bind, Traced.bind_of_ok h.credentials, credentials_records]
  simp only [h.checked, Traced.lift_ok_bind]
  simp [pure, Traced.ok]

theorem resolveContext_of_taken (h : s.Taken w d name userAgent) :
    resolveContext w d s.selected name userAgent =
      { result := .ok (s.profile, s.method)
        records := s.warnings
        calls := (credentials w s.user name d.path.parent).calls } := by
  rw [resolveContext_eq, h.cluster, Traced.lift_ok_bind, h.user]
  simp only [Traced.lift_ok_bind]
  unfold resolveFound
  simp only [h.server, h.groups, assembled_of_taken h, Bool.not_true, Bool.false_eq_true,
    ↓reduceIte, Traced.lift_ok_bind, applyVerification_eq]
  simp [Traced.mapFailure, Except.mapError, bind, Traced.andThen, pure, Traced.ok, Steps.profile,
    Steps.warnings]

theorem assembled_ok {cluster user : Entries} {groups : List Value} {p : Profile}
    {method : AuthMethod}
    (h : (assembled w d cluster user name userAgent groups).result = .ok (p, method)) :
    ∃ trust creds, authorities w cluster d.path.parent = .ok trust ∧
      (credentials w user name d.path.parent).result = .ok (creds, method) ∧
      profile (Value.field cluster "server") creds trust userAgent user groups = .ok p := by
  unfold assembled at h
  obtain ⟨trust, read, h⟩ := Traced.result_bind_ok.mp h
  obtain ⟨⟨creds, _⟩, authenticated, h⟩ := Traced.result_bind_ok.mp h
  obtain ⟨_, checked, h⟩ := Traced.result_bind_ok.mp h
  obtain ⟨rfl, rfl⟩ := Prod.mk.inj (Except.ok.inj h)
  exact ⟨trust, creds, read, authenticated, checked⟩

theorem resolveContext_ok {selected : Entries} {p : Profile} {method : AuthMethod}
    (h : (resolveContext w d selected name userAgent).result = .ok (p, method)) :
    ∃ s : Steps, s.selected = selected ∧ s.Taken w d name userAgent := by
  rw [resolveContext_eq] at h
  obtain ⟨⟨clusterName, cluster⟩, clusterFound, h⟩ := Traced.result_bind_ok.mp h
  obtain ⟨⟨userName, user⟩, userFound, h⟩ := Traced.result_bind_ok.mp h
  dsimp only at h
  unfold resolveFound at h
  split at h
  · obtain ⟨_, _, h⟩ := Traced.result_bind_ok.mp h
    cases h
  · rename_i server
    obtain ⟨groups, read, h⟩ := Traced.result_bind_ok.mp h
    obtain ⟨⟨q, m⟩, h, _⟩ := Traced.result_bind_ok.mp h
    obtain ⟨trust, creds, trusted, authenticated, checked⟩ := assembled_ok (mapError_ok.mp h)
    exact ⟨⟨selected, clusterName, cluster, userName, user, groups, trust, creds, m, q⟩, rfl,
      clusterFound, userFound, by simpa using server, read, trusted, authenticated, checked⟩

/-- The steps lead from a document to a profile of its selected context. -/
structure Steps.Complete (s : Steps) (w : World) (d : Document) (context userAgent : Value) :
    Prop where
  named : (contextName d context).truthy = true
  found : find d.entries "contexts" "context" (contextName d context) = .ok (some s.selected)
  taken : s.Taken w d (contextName d context) userAgent

theorem resolve_of_complete {shown : String} (h : s.Complete w d context userAgent)
    (written : Failure.textOf (contextName d context) = .ok shown) :
    resolve w d context userAgent =
      { result := .ok s.profile
        records := s.warnings ++
          [loadedRecord d.path (contextName d context) shown s.profile s.method]
        calls := (credentials w s.user (contextName d context) d.path.parent).calls } := by
  rw [resolve_eq, h.named, Bool.not_true, if_neg Bool.false_ne_true, h.found]
  change finish w d s.selected (contextName d context) userAgent = _
  unfold finish
  rw [resolveContext_of_taken h.taken, written]
  simp [Traced.mapFailure, Except.mapError, bind, Traced.andThen, pure, Traced.ok, Traced.lift,
    Traced.log]

/-- A profile whose context has no text to log ends in a failure, after its warning. -/
theorem resolve_of_unwritable {e : Failure} (h : s.Complete w d context userAgent)
    (unwritten : Failure.textOf (contextName d context) = .error e) :
    resolve w d context userAgent =
      { result := .error e
        records := s.warnings
        calls := (credentials w s.user (contextName d context) d.path.parent).calls } := by
  rw [resolve_eq, h.named, Bool.not_true, if_neg Bool.false_ne_true, h.found]
  change finish w d s.selected (contextName d context) userAgent = _
  unfold finish
  rw [resolveContext_of_taken h.taken, unwritten]
  simp [Traced.mapFailure, Except.mapError, bind, Traced.andThen, Traced.lift]

/-! ### Resolutions that stop before -/

theorem assembled_records (w : World) (d : Document) (cluster user : Entries)
    (name userAgent : Value) (groups : List Value) :
    (assembled w d cluster user name userAgent groups).records = [] := by
  refine Traced.records_bind_nil rfl fun trust _ => ?_
  refine Traced.records_bind_nil (credentials_records _ _ _ _) fun creds _ => ?_
  exact Traced.records_bind_nil rfl fun _ _ => rfl

theorem resolveContext_error_records {selected : Entries} {e : Failure}
    (h : (resolveContext w d selected name userAgent).result = .error e) :
    (resolveContext w d selected name userAgent).records = [] := by
  rw [resolveContext_eq] at h ⊢
  refine Traced.records_nil_of_bind_error h rfl fun ⟨clusterName, cluster⟩ h => ?_
  refine Traced.records_nil_of_bind_error h rfl fun ⟨userName, user⟩ h => ?_
  dsimp only at h ⊢
  unfold resolveFound at h ⊢
  by_cases server : (Value.field cluster "server").truthy = true
  · rw [server, Bool.not_true, if_neg Bool.false_ne_true] at h ⊢
    refine Traced.records_nil_of_bind_error h rfl fun groups h => ?_
    refine Traced.records_nil_of_bind_error h (assembled_records _ _ _ _ _ _ _) fun ⟨p, m⟩ h => ?_
    dsimp only at h
    rw [applyVerification_eq] at h
    cases h
  · rw [Bool.not_eq_true] at server
    rw [server]
    exact Traced.records_bind_nil rfl fun _ _ => rfl

/-- A resolution either takes all steps, or fails and logs nothing. -/
theorem complete_or_silent (w : World) (d : Document) (context userAgent : Value) :
    (∃ s : Steps, s.Complete w d context userAgent) ∨
      ∃ e, (resolve w d context userAgent).result = .error e ∧
        (resolve w d context userAgent).records = [] := by
  rw [resolve_eq]
  by_cases named : (contextName d context).truthy = true
  · rw [named, Bool.not_true, if_neg Bool.false_ne_true]
    cases found : find d.entries "contexts" "context" (contextName d context) with
    | error e => exact .inr ⟨_, rfl, rfl⟩
    | ok entries =>
      cases entries with
      | none =>
        refine .inr ?_
        change ∃ e, (unknownContext d (contextName d context)).result = .error e ∧
          (unknownContext d (contextName d context)).records = []
        unfold unknownContext
        cases Failure.textOf (contextName d context) <;> exact ⟨_, rfl, rfl⟩
      | some selected =>
        -- Nothing is logged before the profile is checked, so a failure up to there is silent.
        cases resolved : (resolveContext w d selected (contextName d context) userAgent).result with
        | error e =>
          have silent := resolveContext_error_records resolved
          have failed : (Traced.mapFailure (situate d.path (contextName d context))
              (resolveContext w d selected (contextName d context) userAgent)).result =
              .error (situate d.path (contextName d context) e) := by
            rw [Traced.result_mapFailure, resolved]
            rfl
          refine .inr ⟨situate d.path (contextName d context) e, ?_⟩
          change (finish w d selected (contextName d context) userAgent).result = _ ∧
            (finish w d selected (contextName d context) userAgent).records = []
          unfold finish
          rw [Traced.bind_of_error failed]
          exact ⟨rfl, silent⟩
        | ok r =>
          obtain ⟨p, method⟩ := r
          obtain ⟨s, rfl, taken⟩ := resolveContext_ok resolved
          exact .inl ⟨s, named, found, taken⟩
  · rw [Bool.not_eq_true] at named
    rw [named]
    exact .inr ⟨_, rfl, rfl⟩

end ClusterAccess.Kubeconfig
