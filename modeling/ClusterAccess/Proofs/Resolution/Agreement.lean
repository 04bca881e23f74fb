import ClusterAccess.Proofs.Agreement
import ClusterAccess.Proofs.Resolution.Steps

/-!
# From alike credentials to alike resolutions

Two resolutions agree if their selected users do: if they ask for the same, and if their credentials
fail alike or differ in the secret alone (`resolve_agrees`).
-/

namespace ClusterAccess

/-! ### Profiles without their secret -/

/-- The credentials with nothing in place of the secret. -/
def Credentials.withoutSecret : Credentials → Credentials
  | .header _ => .header ""
  | .pem certificate _ => .pem certificate ""

def Profile.withoutSecret (p : Profile) : Profile :=
  { p with credentials := p.credentials.withoutSecret }

theorem Credentials.describe_withoutSecret (c : Credentials) :
    c.withoutSecret.describe = c.describe := by
  cases c <;> rfl

theorem Profile.describe_withoutSecret (p : Profile) : p.withoutSecret.describe = p.describe := by
  have credentials := p.credentials.describe_withoutSecret
  unfold describe fieldTexts
  dsimp only [withoutSecret]
  rw [credentials]

theorem Profile.eq_of_withoutSecret {p q : Profile} (same : p.withoutSecret = q.withoutSecret)
    (credentials : p.credentials = q.credentials) : p = q := by
  have whole : { p.withoutSecret with credentials := p.credentials } =
      { q.withoutSecret with credentials := q.credentials } := by rw [same, credentials]
  exact whole

namespace Kubeconfig

/-- Credentials of the same kind, found the same way, that differ in the secret alone. -/
def SameButSecret (x y : Credentials × AuthMethod) : Prop :=
  x.1.withoutSecret = y.1.withoutSecret ∧ x.2 = y.2

def ProfilesAgree (x y : Profile × AuthMethod) : Prop :=
  x.1.withoutSecret = y.1.withoutSecret ∧ x.2 = y.2

/-! ### From the credentials to the resolution -/

theorem assemble_credentials {endpoint userAgent : Check String} {trust : Check (Option TrustSource)}
    {verify : Check Bool} {user : Check Value} {groups : Check (List Value)}
    (creds other : Credentials) :
    Profile.assemble endpoint (.ok other) trust userAgent verify user groups =
      (Profile.assemble endpoint (.ok creds) trust userAgent verify user groups).map
        fun p => { p with credentials := other } := by
  cases endpoint <;> cases trust <;> cases userAgent <;> cases verify <;> cases user <;>
    cases groups <;> rfl

/-- Whether a profile is refused does not depend on the secret. -/
theorem profile_agrees {server userAgent : Value} {creds other : Credentials}
    {trust : Option TrustSource} {user user' : Entries} {groups : List Value}
    (same : creds.withoutSecret = other.withoutSecret)
    (acting : Value.field user' "as" = Value.field user "as") :
    Agree (fun p q => p.withoutSecret = q.withoutSecret)
      (profile server creds trust userAgent user groups)
      (profile server other trust userAgent user' groups) := by
  unfold profile
  rw [acting, assemble_credentials creds other]
  cases assembled : Profile.assemble
      (Check.within (.field "api_server_endpoint") (Lax.text server)) (.ok creds) (.ok trust)
      (Check.within (.field "user_agent") (Lax.text userAgent)) (.ok true)
      (Check.within (.field "impersonate") (Profile.checkUser (Value.field user "as")))
      (Check.within (.field "impersonate_groups") (Profile.checkGroups (.list groups))) with
  | error issues => exact .error _
  | ok p =>
    refine .ok ?_
    obtain ⟨_, credentials, _⟩ := Profile.assemble_ok.mp assembled
    unfold Profile.withoutSecret
    dsimp only
    rw [← same, ← Except.ok.inj credentials]

theorem verificationWarning_agrees {p q : Profile} (same : p.withoutSecret = q.withoutSecret) :
    p.verificationWarning = q.verificationWarning := by
  change p.withoutSecret.verificationWarning = q.withoutSecret.verificationWarning
  rw [same]

theorem applyVerification_agrees (cluster : Entries) {p q : Profile}
    (same : p.withoutSecret = q.withoutSecret) :
    Traced.Agrees (fun p q => p.withoutSecret = q.withoutSecret)
      (applyVerification cluster p) (applyVerification cluster q) := by
  rw [applyVerification_eq, applyVerification_eq, verificationWarning_agrees same]
  refine ⟨.ok ?_, rfl, rfl⟩
  split
  · change p.withoutSecret.withoutVerification = q.withoutSecret.withoutVerification
    rw [same]
  · exact same

/-- Tildes stand for the same home directories. -/
structure SameHomes (w w' : World) : Prop where
  environment : w'.environment = w.environment
  accounts : w'.accounts = w.accounts
  ownHome : w'.ownHome = w.ownHome

theorem SameHomes.namedPath {w w' : World} (h : SameHomes w w') (v : Value) :
    w'.namedPath v = w.namedPath v := by
  have homes (name : String) : w'.homeFor name = w.homeFor name := by
    unfold World.homeFor World.accountHome World.environment?
    rw [h.environment, h.accounts, h.ownHome]
  have expands (p : FilePath) : w'.expandHome p = w.expandHome p := by
    unfold World.expandHome
    simp only [homes]
  unfold World.namedPath
  simp only [expands]

theorem SameHomes.referencedPath {w w' : World} (h : SameHomes w w') (base : FilePath)
    (v : Value) : referencedPath w' base v = Kubeconfig.referencedPath w base v := by
  unfold Kubeconfig.referencedPath
  rw [h.namedPath]

theorem SameHomes.authorities {w w' : World} (h : SameHomes w w') (cluster : Entries)
    (base : FilePath) : authorities w' cluster base = Kubeconfig.authorities w cluster base := by
  unfold Kubeconfig.authorities
  simp only [h.referencedPath]

/-- Two users who ask for the same, and whose credentials differ in the secret alone. -/
structure UsersAgree (w w' : World) (base : FilePath) (user user' : Entries) : Prop where
  homes : SameHomes w w'
  acting : Value.field user' "as" = Value.field user "as"
  groups : Value.field user' "as-groups" = Value.field user "as-groups"
  credentials : ∀ name, Traced.Agrees SameButSecret (Kubeconfig.credentials w user name base)
    (Kubeconfig.credentials w' user' name base)

variable {w w' : World} {d d' : Document} {user user' : Entries} {context name userAgent : Value}

theorem assembled_agrees (same : d'.path = d.path)
    (users : UsersAgree w w' d.path.parent user user') (cluster : Entries) (groups : List Value) :
    Traced.Agrees ProfilesAgree (assembled w d cluster user name userAgent groups)
      (assembled w' d' cluster user' name userAgent groups) := by
  unfold assembled
  rw [same, users.homes.authorities]
  refine .bind (R := Eq) (.refl (fun _ => rfl) _) ?_
  rintro trust _ rfl
  refine .bind (users.credentials name) ?_
  rintro ⟨creds, method⟩ ⟨other, _⟩ ⟨secret, rfl⟩
  refine .bind (.lift (profile_agrees secret users.acting)) ?_
  exact fun p q profiles => .pure ⟨profiles, rfl⟩

theorem resolveFound_agrees (same : d'.path = d.path)
    (users : UsersAgree w w' d.path.parent user user') (clusterName : Value) (cluster : Entries)
    (userName : Value) :
    Traced.Agrees ProfilesAgree
      (resolveFound w d clusterName cluster userName user name userAgent)
      (resolveFound w' d' clusterName cluster userName user' name userAgent) := by
  have listed : actingGroups user' userName = actingGroups user userName := by
    unfold actingGroups
    rw [users.groups]
  unfold resolveFound
  rw [listed]
  split
  · exact ⟨.refl (fun _ => ⟨rfl, rfl⟩) _, rfl, rfl⟩
  · refine .bind (R := Eq) (.refl (fun _ => rfl) _) ?_
    rintro groups _ rfl
    refine .bind ((assembled_agrees same users cluster groups).mapFailure invalidValues) ?_
    rintro ⟨p, method⟩ ⟨q, _⟩ ⟨profiles, rfl⟩
    refine .bind (applyVerification_agrees cluster profiles) ?_
    exact fun p q profiles => .pure ⟨profiles, rfl⟩

/-- Two documents and surroundings that select users who agree, and are the same otherwise. -/
structure RunsAgree (w w' : World) (d d' : Document) (context : Value) (user user' : Entries) :
    Prop where
  path : d'.path = d.path
  sections : ∀ key, key ≠ "users" → Value.field d'.entries key = Value.field d.entries key
  selected : selected? d context "users" "user" = some user
  selected' : selected? d' context "users" "user" = some user'
  users : UsersAgree w w' d.path.parent user user'

namespace RunsAgree

theorem contextName (h : RunsAgree w w' d d' context user user') :
    contextName d' context = Kubeconfig.contextName d context := by
  unfold Kubeconfig.contextName
  rw [h.sections _ (by decide)]

theorem find (h : RunsAgree w w' d d' context user user') {sectionName : String}
    (other : sectionName ≠ "users") (key : String) (name : Value) :
    find d'.entries sectionName key name = Kubeconfig.find d.entries sectionName key name :=
  find_of_field (h.sections _ other)

end RunsAgree

theorem selected?_some {sectionName key : String} {found : Entries}
    (h : selected? d context sectionName key = some found) :
    ∃ selected, find d.entries "contexts" "context" (contextName d context) = .ok (some selected) ∧
      find d.entries sectionName key (referredName selected key) = .ok (some found) := by
  unfold selected? at h
  split at h
  · rename_i selected read
    refine ⟨selected, read, ?_⟩
    split at h
    · rename_i entries referred
      rw [referred, h]
    · cases h
  · cases h

theorem referenced_of_find {document selected entries : Entries} {sectionName key kind : String}
    (h : find document sectionName key (referredName selected key) = .ok (some entries)) :
    referenced document selected sectionName key kind =
      .ok (referredName selected key, entries) := by
  unfold referenced
  change (find document sectionName key (referredName selected key) >>= _) = _
  rw [h]
  rfl

theorem loadedRecord_agrees (path : FilePath) (name : Value) (shown : String) (method : AuthMethod)
    {p q : Profile} (same : p.withoutSecret = q.withoutSecret) :
    loadedRecord path name shown p method = loadedRecord path name shown q method := by
  change loadedRecord path name shown p.withoutSecret method =
    loadedRecord path name shown q.withoutSecret method
  rw [same]

theorem resolveContext_agrees (h : RunsAgree w w' d d' context user user') {selected : Entries}
    (found : find d.entries "users" "user" (referredName selected "user") = .ok (some user))
    (found' : find d'.entries "users" "user" (referredName selected "user") = .ok (some user')) :
    Traced.Agrees ProfilesAgree (resolveContext w d selected name userAgent)
      (resolveContext w' d' selected name userAgent) := by
  have clusters : referenced d'.entries selected "clusters" "cluster" "Cluster" =
      referenced d.entries selected "clusters" "cluster" "Cluster" :=
    referenced_of_find_eq (h.find (by decide) _ _)
  rw [resolveContext_eq, resolveContext_eq, clusters, referenced_of_find found,
    referenced_of_find found']
  refine .bind (R := Eq) (.refl (fun _ => rfl) _) ?_
  rintro ⟨clusterName, cluster⟩ _ rfl
  exact resolveFound_agrees h.path h.users clusterName cluster _

theorem finish_agrees (h : RunsAgree w w' d d' context user user') {selected : Entries}
    (found : find d.entries "users" "user" (referredName selected "user") = .ok (some user))
    (found' : find d'.entries "users" "user" (referredName selected "user") = .ok (some user')) :
    Traced.Agrees (fun p q => p.withoutSecret = q.withoutSecret)
      (finish w d selected name userAgent) (finish w' d' selected name userAgent) := by
  unfold finish
  rw [h.path]
  refine .bind ((resolveContext_agrees h found found').mapFailure _) ?_
  rintro ⟨p, method⟩ ⟨q, _⟩ ⟨profiles, rfl⟩
  refine .bind (R := Eq) (.refl (fun _ => rfl) _) ?_
  rintro shown _ rfl
  dsimp only
  rw [loadedRecord_agrees d.path name shown method profiles]
  refine .bind (R := Eq) (.refl (fun _ => rfl) _) ?_
  exact fun _ _ _ => .pure profiles

theorem resolve_agrees (h : RunsAgree w w' d d' context user user') (userAgent : Value) :
    Traced.Agrees (fun p q => p.withoutSecret = q.withoutSecret)
      (resolve w d context userAgent) (resolve w' d' context userAgent) := by
  obtain ⟨selected, read, found⟩ := selected?_some h.selected
  obtain ⟨selected', read', found'⟩ := selected?_some h.selected'
  rw [h.contextName, h.find (by decide)] at read'
  -- Contexts are not users, so both documents select the same one.
  obtain rfl := Option.some.inj (Except.ok.inj (read.symm.trans read'))
  rw [resolve_eq, resolve_eq, h.contextName, h.find (by decide), h.path, read]
  split
  · exact ⟨.error _, rfl, rfl⟩
  · exact finish_agrees h found found'

end Kubeconfig
end ClusterAccess
