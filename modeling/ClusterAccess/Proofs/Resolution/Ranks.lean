import ClusterAccess.Proofs.Resolution.Readiness

/-!
# The method that decides

A method decides if it is the first that a user configures, also if it fails (`Decides`). Then the
search for credentials comes to what this method comes to by itself (`credentials_of_decides`).
-/

namespace ClusterAccess.Kubeconfig

namespace AuthMethod

def fields : AuthMethod → List String
  | .token => ["token"]
  | .tokenFile => ["tokenFile"]
  | .clientCertificate =>
    ["client-certificate-data", "client-certificate", "client-key-data", "client-key"]
  | .basic => ["username", "password"]
  | .plugin => ["exec", "auth-provider"]

/-- The methods that are tried after a method. -/
def below : AuthMethod → List AuthMethod
  | .token => [.tokenFile, .clientCertificate, .basic, .plugin]
  | .tokenFile => [.clientCertificate, .basic, .plugin]
  | .clientCertificate => [.basic, .plugin]
  | .basic => [.plugin]
  | .plugin => []

theorem fields_disjoint (a b : AuthMethod) : ∀ key ∈ a.fields, key ∈ b.fields → a = b := by
  cases a <;> cases b <;> decide

theorem below_asymm {a b : AuthMethod} (h : a ∈ b.below) : b ∉ a.below := by
  cases a <;> cases b <;> first | exact absurd h (by decide) | decide

end AuthMethod

/-- The two kinds of material, named by the fields for their files. -/
def materials : List String := ["client-certificate", "client-key"]

/-- Material that fails counts as configured. -/
def Configures (w : World) (user : Entries) (base : FilePath) : AuthMethod → Prop
  | .token => (Value.field user "token").truthy = true
  | .tokenFile => (Value.field user "tokenFile").truthy = true
  | .clientCertificate =>
    ∃ kind ∈ materials, ∀ v, material w user kind base = .ok v → v.truthy = true
  | .basic =>
    (Value.field user "username").truthy = true ∧ (Value.field user "password").truthy = true
  | .plugin =>
    (Value.field? user "exec").isSome = true ∨ (Value.field? user "auth-provider").isSome = true

/-- A method is the first that is configured. -/
structure Decides (w : World) (user : Entries) (base : FilePath) (method : AuthMethod) : Prop where
  configured : Configures w user base method
  first : ∀ higher : AuthMethod, method ∈ higher.below → ¬ Configures w user base higher

def unpairedMessage : String := "client-certificate and client-key must be configured together"

def pairMaterial (certificate key : Value) : Except Failure Credentials :=
  if certificate.truthy && key.truthy then checkMaterial certificate key
  else .error (Failure.kubeconfig unpairedMessage)

/-- What a method comes to by itself. -/
def attempt (w : World) (user : Entries) (name : Value) (base : FilePath) :
    AuthMethod → Traced Credentials
  | .token => Traced.lift (Credentials.bearer <$> Failure.textOf (Value.field user "token"))
  | .tokenFile => Traced.lift (tokenFromFile w base (Value.field user "tokenFile"))
  | .clientCertificate => Traced.lift (do
    let certificate ← material w user "client-certificate" base
    let key ← material w user "client-key" base
    pairMaterial certificate key)
  | .basic =>
    Traced.lift (basicHeader (Value.field user "username") (Value.field user "password"))
  | .plugin => pluginCredentials w name base

variable {w w' : World} {user user' : Entries} {name : Value} {base : FilePath}
  {method : AuthMethod}

/-! ### The search and its outcome -/

theorem certifiedOr_of_given {certificate key : Value}
    (given : (certificate.truthy || key.truthy) = true) :
    certifiedOr w user name base certificate key =
      (do pure (← Traced.lift (pairMaterial certificate key), .clientCertificate)) := by
  unfold certifiedOr pairMaterial
  by_cases both : (certificate.truthy && key.truthy) = true
  · rw [if_pos both, if_pos both]
  · rw [if_neg both, if_pos given, if_neg both]
    rfl

theorem material_unset (unset : ¬ Configures w user base .clientCertificate) (kind : String)
    (member : kind ∈ materials) : ∃ v, material w user kind base = .ok v ∧ v.truthy = false := by
  cases read : material w user kind base with
  | error e =>
    refine (unset ⟨kind, member, fun v given => ?_⟩).elim
    rw [read] at given
    cases given
  | ok v =>
    cases truthy : v.truthy with
    | false => exact ⟨v, rfl, truthy⟩
    | true =>
      refine (unset ⟨kind, member, fun v' given => ?_⟩).elim
      obtain rfl := Except.ok.inj (read.symm.trans given)
      exact truthy

theorem basicOrPlugin_of_basic (h : Configures w user base .basic) :
    basicOrPlugin w user name base = (do pure (← attempt w user name base .basic, .basic)) := by
  unfold basicOrPlugin
  dsimp only
  rw [h.1, h.2]
  rfl

section NoPassword

variable (basic : ¬ Configures w user base .basic)
include basic

theorem not_basic : ¬ ((Value.field user "username").truthy &&
    (Value.field user "password").truthy) = true := by
  rw [Bool.and_eq_true]
  exact basic

theorem basicOrPlugin_of_plugin (h : Configures w user base .plugin) :
    basicOrPlugin w user name base = (do pure (← attempt w user name base .plugin, .plugin)) := by
  have given : ((Value.field? user "exec").isSome ||
      (Value.field? user "auth-provider").isSome) = true := by
    rw [Bool.or_eq_true]
    exact h
  unfold basicOrPlugin
  dsimp only
  rw [if_neg (not_basic basic), if_pos given]
  rfl

theorem basicOrPlugin_of_none (plugin : ¬ Configures w user base .plugin) :
    basicOrPlugin w user name base =
      Traced.fail (Failure.kubeconfig "User has no supported credentials") := by
  have unset : ¬ ((Value.field? user "exec").isSome ||
      (Value.field? user "auth-provider").isSome) = true := by
    rw [Bool.or_eq_true]
    exact plugin
  unfold basicOrPlugin
  dsimp only
  rw [if_neg (not_basic basic), if_neg unset]

end NoPassword

section Material

variable (token : ¬ Configures w user base .token) (tokenFile : ¬ Configures w user base .tokenFile)
include token tokenFile

theorem credentials_of_material : credentials w user name base = (do
    let certificate ← Traced.lift (material w user "client-certificate" base)
    let key ← Traced.lift (material w user "client-key" base)
    certifiedOr w user name base certificate key) := by
  have unset : ¬ (Value.field user "token").truthy = true := token
  have unset' : ¬ (Value.field user "tokenFile").truthy = true := tokenFile
  rw [credentials_eq, if_neg unset, if_neg unset']

theorem credentials_of_certificate (h : Configures w user base .clientCertificate) :
    credentials w user name base =
      (do pure (← attempt w user name base .clientCertificate, .clientCertificate)) := by
  obtain ⟨kind, member, given⟩ := h
  rw [credentials_of_material token tokenFile]
  dsimp only [attempt]
  cases read : material w user "client-certificate" base with
  | error e => rfl
  | ok certificate =>
    cases read' : material w user "client-key" base with
    | error e => rfl
    | ok key =>
      have either : (certificate.truthy || key.truthy) = true := by
        rw [Bool.or_eq_true]
        simp only [materials, List.mem_cons, List.not_mem_nil, or_false] at member
        rcases member with rfl | rfl
        · exact .inl (given certificate read)
        · exact .inr (given key read')
      rw [Traced.lift_ok_bind, Traced.lift_ok_bind, certifiedOr_of_given either]
      rfl

/-- The search goes on below the certificate if neither that nor its key is configured. -/
theorem credentials_below (certificate : ¬ Configures w user base .clientCertificate) :
    credentials w user name base = basicOrPlugin w user name base := by
  obtain ⟨first, read, unset⟩ := material_unset certificate "client-certificate" (by decide)
  obtain ⟨second, read', unset'⟩ := material_unset certificate "client-key" (by decide)
  rw [credentials_of_material token tokenFile, read, Traced.lift_ok_bind, read',
    Traced.lift_ok_bind]
  unfold certifiedOr
  rw [unset, unset']
  rfl

end Material

/-- The search comes to what the method comes to that decides. -/
theorem credentials_of_decides (h : Decides w user base method) :
    credentials w user name base = (do pure (← attempt w user name base method, method)) := by
  have unset (higher : AuthMethod) (above : method ∈ higher.below) := h.first higher above
  have configured := h.configured
  cases method with
  | token =>
    have given : (Value.field user "token").truthy = true := configured
    rw [credentials_eq, if_pos given]
    dsimp only [attempt]
    cases Failure.textOf (Value.field user "token") <;> rfl
  | tokenFile =>
    have token : ¬ (Value.field user "token").truthy = true := unset .token (by decide)
    have given : (Value.field user "tokenFile").truthy = true := configured
    rw [credentials_eq, if_neg token, if_pos given]
    rfl
  | clientCertificate =>
    exact credentials_of_certificate (unset _ (by decide)) (unset _ (by decide)) configured
  | basic =>
    rw [credentials_below (unset .token (by decide)) (unset .tokenFile (by decide))
      (unset .clientCertificate (by decide))]
    exact basicOrPlugin_of_basic configured
  | plugin =>
    rw [credentials_below (unset .token (by decide)) (unset .tokenFile (by decide))
      (unset .clientCertificate (by decide))]
    exact basicOrPlugin_of_plugin (unset .basic (by decide)) configured

/-- Above a method that is configured, or in its place, one decides. -/
theorem decides_of_configures {m : AuthMethod} (configured : Configures w user base m) :
    ∃ first, Decides w user base first := by
  -- The search for the first one goes up the ranks, of which there are five.
  by_cases first : ∀ higher : AuthMethod, m ∈ higher.below → ¬ Configures w user base higher
  · exact ⟨m, configured, first⟩
  · simp only [Classical.not_forall, Classical.not_not] at first
    obtain ⟨higher, above, configured'⟩ := first
    exact decides_of_configures configured'
termination_by 4 - m.below.length
decreasing_by cases m <;> cases higher <;> first | decide | exact absurd above (by decide)

theorem decides_or_unset (w : World) (user : Entries) (base : FilePath) :
    (∃ m, Decides w user base m) ∨ ∀ m, ¬ Configures w user base m := by
  by_cases decides : ∃ m, Decides w user base m
  · exact .inl decides
  · exact .inr fun _ configured => decides (decides_of_configures configured)

theorem credentials_of_none (unset : ∀ m, ¬ Configures w user base m) :
    credentials w user name base =
      Traced.fail (Failure.kubeconfig "User has no supported credentials") := by
  rw [credentials_below (unset _) (unset _) (unset _)]
  exact basicOrPlugin_of_none (unset _) (unset _)

/-- Credentials come of the method that decides. -/
theorem decides_of_credentials {creds : Credentials}
    (ended : (credentials w user name base).result = .ok (creds, method)) :
    Decides w user base method ∧ (attempt w user name base method).result = .ok creds := by
  rcases decides_or_unset w user base with ⟨m, decides⟩ | unset
  · rw [credentials_of_decides decides] at ended
    obtain ⟨made, attempted, ended⟩ := Traced.result_bind_ok.mp ended
    obtain ⟨rfl, rfl⟩ := Prod.mk.inj (Except.ok.inj ended)
    exact ⟨decides, attempted⟩
  · rw [credentials_of_none unset] at ended
    cases ended

/-- What a method comes to leaves no call behind, unless it is the plugin. -/
theorem credentials_calls_nil (h : Decides w user base method) (other : method ≠ .plugin) :
    (credentials w user name base).calls = [] := by
  rw [credentials_of_decides h]
  have silent : (attempt w user name base method).calls = [] := by
    cases method with
    | plugin => exact (other rfl).elim
    | _ => rfl
  exact Traced.calls_bind_nil silent fun _ _ => rfl

theorem attempt_of_credentials {creds : Credentials} {found : AuthMethod}
    (h : Decides w user base method)
    (ended : (credentials w user name base).result = .ok (creds, found)) :
    (attempt w user name base method).result = .ok creds := by
  rw [credentials_of_decides h] at ended
  obtain ⟨made, attempted, ended⟩ := Traced.result_bind_ok.mp ended
  obtain ⟨rfl, _⟩ := Prod.mk.inj (Except.ok.inj ended)
  exact attempted

theorem attempt_header {creds : Credentials} (other : method ≠ .clientCertificate)
    (h : (attempt w user name base method).result = .ok creds) :
    ∃ header, creds = .header header := by
  cases method with
  | clientCertificate => exact (other rfl).elim
  | token =>
    dsimp only [attempt, Traced.result_lift] at h
    cases written : Failure.textOf (Value.field user "token") with
    | error e =>
      rw [written] at h
      cases h
    | ok text =>
      rw [written] at h
      exact ⟨_, (Except.ok.inj h).symm⟩
  | tokenFile => exact tokenFromFile_header h
  | basic => exact basicHeader_header h
  | plugin => exact pluginCredentials_header h

/-- Only a certificate with its key makes credentials of that kind. -/
theorem attempt_pem_iff {creds : Credentials}
    (h : (attempt w user name base method).result = .ok creds) :
    method = .clientCertificate ↔ ∃ certificate key, creds = .pem certificate key := by
  constructor
  · rintro rfl
    obtain ⟨certificate, _, h⟩ := result_bind_ok.mp h
    obtain ⟨key, _, h⟩ := result_bind_ok.mp h
    unfold pairMaterial at h
    split at h
    · obtain ⟨first, second, pem, _⟩ := checkMaterial_ok h
      exact ⟨first, second, pem⟩
    · cases h
  · rintro ⟨certificate, key, rfl⟩
    refine Classical.byContradiction fun other => ?_
    obtain ⟨_, header⟩ := attempt_header other h
    cases header

end ClusterAccess.Kubeconfig
