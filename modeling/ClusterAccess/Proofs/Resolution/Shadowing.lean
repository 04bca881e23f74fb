import ClusterAccess.Proofs.Resolution.Consulted
import ClusterAccess.Proofs.Resolution.Ranks

/-!
# What does not count

Once a method decides, nothing below it counts: no field of a lower method, no file but its own, and
no plugin. A file beside inline data does not count either (`first_method_decides`).
-/

namespace ClusterAccess.Kubeconfig

variable {w w' : World} {user user' : Entries} {name : Value} {base : FilePath}
  {method : AuthMethod}

/-- A field that does not count once a method decides: it belongs to a lower method, or names a file
beside inline data. -/
def Shadowed (user : Entries) (method : AuthMethod) (key : String) : Prop :=
  (∃ lower ∈ method.below, key ∈ lower.fields) ∨
    (key ∈ materials ∧ (Value.field user (key ++ "-data")).truthy = true)

/-- Two users and their surroundings, the same but for what does not count once a method decides. -/
structure SameAbove (w w' : World) (user user' : Entries) (base : FilePath)
    (method : AuthMethod) : Prop where
  homes : SameHomes w w'
  fields : ∀ key, ¬ Shadowed user method key → Value.field? user' key = Value.field? user key
  reads : ∀ key ∈ fileFields, ¬ Shadowed user method key →
    (Value.field user key).truthy = true →
    ∀ p, referencedPath w base (Value.field user key) = .ok p → w'.read p = w.read p
  plugin : method = .plugin → w'.plugin = w.plugin

/-- A field of a method that is not below counts, unless it names a file beside inline data. -/
theorem not_shadowed {other : AuthMethod} (counts : other ∉ method.below) {key : String}
    (member : key ∈ other.fields)
    (alone : key ∈ materials → ¬ (Value.field user (key ++ "-data")).truthy = true) :
    ¬ Shadowed user method key := by
  rintro (⟨lower, below, shared⟩ | ⟨material, inline⟩)
  · rw [AuthMethod.fields_disjoint other lower key member shared] at counts
    exact counts below
  · exact alone material inline

theorem shadowed_field {key : String} (shadowed : Shadowed user method key) :
    ∃ lower : AuthMethod, key ∈ lower.fields := by
  rcases shadowed with ⟨lower, _, member⟩ | ⟨member, _⟩
  · exact ⟨lower, member⟩
  · refine ⟨.clientCertificate, ?_⟩
    simp only [materials, List.mem_cons, List.not_mem_nil, or_false] at member
    rcases member with rfl | rfl <;> decide

namespace SameAbove

variable (h : SameAbove w w' user user' base method) {other : AuthMethod}
include h

theorem field? (counts : other ∉ method.below) {key : String} (member : key ∈ other.fields)
    (plain : key ∉ materials) : Value.field? user' key = Value.field? user key :=
  h.fields key (not_shadowed counts member fun material => (plain material).elim)

theorem field (counts : other ∉ method.below) {key : String} (member : key ∈ other.fields)
    (plain : key ∉ materials) : Value.field user' key = Value.field user key :=
  field_of_field? (h.field? counts member plain)

theorem material (counts : AuthMethod.clientCertificate ∉ method.below) {kind : String}
    (member : kind ∈ materials) :
    material w' user' kind base = Kubeconfig.material w user kind base := by
  have named : kind ++ "-data" ∈ AuthMethod.clientCertificate.fields ∧ kind ++ "-data" ∉ materials ∧
      kind ∈ AuthMethod.clientCertificate.fields ∧ kind ∈ fileFields := by
    simp only [materials, List.mem_cons, List.not_mem_nil, or_false] at member
    rcases member with rfl | rfl <;> decide
  obtain ⟨data, plain, file, reads⟩ := named
  refine material_congr_reads h.homes (h.field counts data plain) fun unset => ?_
  have counted : ¬ Shadowed user method kind := not_shadowed counts file fun _ => unset
  exact ⟨field_of_field? (h.fields kind counted), h.reads kind reads counted⟩

/-- A method that is not below is configured for both users or for none. -/
theorem configures (counts : other ∉ method.below) :
    Configures w' user' base other ↔ Configures w user base other := by
  cases other with
  | token =>
    have same : Value.field user' "token" = Value.field user "token" :=
      h.field counts (by decide) (by decide)
    unfold Configures
    rw [same]
  | tokenFile =>
    have same : Value.field user' "tokenFile" = Value.field user "tokenFile" :=
      h.field counts (by decide) (by decide)
    unfold Configures
    rw [same]
  | clientCertificate =>
    constructor
    · rintro ⟨kind, member, given⟩
      rw [h.material counts member] at given
      exact ⟨kind, member, given⟩
    · rintro ⟨kind, member, given⟩
      rw [← h.material counts member] at given
      exact ⟨kind, member, given⟩
  | basic =>
    have userName : Value.field user' "username" = Value.field user "username" :=
      h.field counts (by decide) (by decide)
    have password : Value.field user' "password" = Value.field user "password" :=
      h.field counts (by decide) (by decide)
    unfold Configures
    rw [userName, password]
  | plugin =>
    have exec : Value.field? user' "exec" = Value.field? user "exec" :=
      h.field? counts (by decide) (by decide)
    have provider : Value.field? user' "auth-provider" = Value.field? user "auth-provider" :=
      h.field? counts (by decide) (by decide)
    unfold Configures
    rw [exec, provider]

theorem decides (decides : Decides w user base method) : Decides w' user' base method := by
  have self : method ∉ method.below := fun below => AuthMethod.below_asymm below below
  refine ⟨(h.configures self).mpr decides.configured, fun higher above configured => ?_⟩
  have counts : higher ∉ method.below := AuthMethod.below_asymm above
  exact decides.first higher above ((h.configures counts).mp configured)

theorem attempt (configured : Configures w user base method) (name : Value) :
    attempt w' user' name base method = Kubeconfig.attempt w user name base method := by
  have self : method ∉ method.below := fun below => AuthMethod.below_asymm below below
  cases method with
  | token =>
    have same : Value.field user' "token" = Value.field user "token" :=
      h.field self (by decide) (by decide)
    dsimp only [Kubeconfig.attempt]
    rw [same]
  | tokenFile =>
    have same : Value.field user' "tokenFile" = Value.field user "tokenFile" :=
      h.field self (by decide) (by decide)
    have counted : ¬ Shadowed user .tokenFile "tokenFile" :=
      not_shadowed self (by decide) fun material => absurd material (by decide)
    dsimp only [Kubeconfig.attempt]
    rw [same, tokenFromFile_eq, tokenFromFile_eq]
    exact congrArg Traced.lift
      (readsFile_congr h.homes (h.reads _ (by decide) counted configured))
  | clientCertificate =>
    dsimp only [Kubeconfig.attempt]
    rw [h.material self (by decide), h.material self (by decide)]
  | basic =>
    have userName : Value.field user' "username" = Value.field user "username" :=
      h.field self (by decide) (by decide)
    have password : Value.field user' "password" = Value.field user "password" :=
      h.field self (by decide) (by decide)
    dsimp only [Kubeconfig.attempt]
    rw [userName, password]
  | plugin =>
    dsimp only [Kubeconfig.attempt]
    unfold pluginCredentials
    rw [h.plugin rfl]

theorem credentials (decides : Decides w user base method) (name : Value) :
    credentials w' user' name base = Kubeconfig.credentials w user name base := by
  rw [credentials_of_decides decides, credentials_of_decides (h.decides decides),
    h.attempt decides.configured]

/-- A field of no method is the same for both users. -/
theorem other_field {key : String} (alien : ∀ lower : AuthMethod, key ∉ lower.fields) :
    Value.field user' key = Value.field user key := by
  refine field_of_field? (h.fields key fun shadowed => ?_)
  obtain ⟨lower, member⟩ := shadowed_field shadowed
  exact alien lower member

end SameAbove

/-! ### Resolutions -/

variable {d d' : Document} {context userAgent : Value}

theorem resolveFound_calls_nil {clusterName userName : Value} {cluster : Entries}
    (silent : (Kubeconfig.credentials w user name d.path.parent).calls = []) :
    (resolveFound w d clusterName cluster userName user name userAgent).calls = [] := by
  unfold resolveFound
  split
  · exact Traced.calls_bind_nil rfl fun _ _ => rfl
  · refine Traced.calls_bind_nil rfl fun groups _ => ?_
    rw [verified_calls]
    cases trusted : authorities w cluster d.path.parent with
    | error e =>
      unfold assembled
      rw [trusted]
      rfl
    | ok trust => rw [assembled_calls trusted, silent]

/-- A resolution calls the plugin only for the credentials of its user. -/
theorem resolve_calls_nil (selected : selected? d context "users" "user" = some user)
    (silent : ∀ name, (Kubeconfig.credentials w user name d.path.parent).calls = []) :
    (resolve w d context userAgent).calls = [] := by
  obtain ⟨entries, read, found⟩ := selected?_some selected
  rw [resolve_eq]
  split
  · rfl
  · rw [read]
    change (finish w d entries (contextName d context) userAgent).calls = []
    rw [finish_calls, resolveContext_eq, referenced_of_find found]
    refine Traced.calls_bind_nil rfl fun ⟨clusterName, cluster⟩ _ => ?_
    exact resolveFound_calls_nil (silent _)

/-- Two documents that select users, and are the same otherwise. -/
structure UserVariant (d d' : Document) (context : Value) (user user' : Entries) : Prop where
  path : d'.path = d.path
  sections : ∀ key, key ≠ "users" → Value.field d'.entries key = Value.field d.entries key
  selected : selected? d context "users" "user" = some user
  selected' : selected? d' context "users" "user" = some user'

/-- Users who ask for the same and come to the same credentials resolve to the same. -/
theorem resolve_of_credentials (variant : UserVariant d d' context user user')
    (homes : SameHomes w w') (acting : Value.field user' "as" = Value.field user "as")
    (groups : Value.field user' "as-groups" = Value.field user "as-groups")
    (same : ∀ name, Kubeconfig.credentials w' user' name d.path.parent =
      Kubeconfig.credentials w user name d.path.parent) :
    resolve w' d' context userAgent = resolve w d context userAgent := by
  have users : UsersAgree w w' d.path.parent user user' := by
    refine ⟨homes, acting, groups, fun name => ?_⟩
    rw [same]
    exact .refl (fun _ => ⟨rfl, rfl⟩) _
  have runs : RunsAgree w w' d d' context user user' :=
    ⟨variant.path, variant.sections, variant.selected, variant.selected', users⟩
  refine ((resolve_agrees runs userAgent).eq_of_values fun p q ended ended' agree => ?_).symm
  refine Profile.eq_of_withoutSecret agree ?_
  -- Both come to the credentials of the first user.
  obtain ⟨_, first⟩ := resolved_credentials variant.selected ended
  obtain ⟨_, second⟩ := resolved_credentials variant.selected' ended'
  rw [variant.path, same, runs.contextName, first] at second
  exact (Prod.mk.inj (Except.ok.inj second)).1

/-- Once a method decides, nothing below it changes a resolution, no plugin is called unless it is
the plugin that decides, and a profile has the credentials of this method and of no other. -/
theorem first_method_decides (variant : UserVariant d d' context user user')
    (decides : Decides w user d.path.parent method)
    (same : SameAbove w w' user user' d.path.parent method) (userAgent : Value) :
    resolve w' d' context userAgent = resolve w d context userAgent ∧
    (method ≠ .plugin → (resolve w d context userAgent).calls = []) ∧
    ∀ p, (resolve w d context userAgent).result = .ok p →
      (Kubeconfig.attempt w user (contextName d context) d.path.parent method).result =
        .ok p.credentials ∧
      (method = .clientCertificate ↔ ∃ certificate key, p.credentials = .pem certificate key) := by
  refine ⟨?_, fun other => ?_, fun p resolved => ?_⟩
  · have acting : Value.field user' "as" = Value.field user "as" :=
      same.other_field fun lower => by cases lower <;> decide
    have groups : Value.field user' "as-groups" = Value.field user "as-groups" :=
      same.other_field fun lower => by cases lower <;> decide
    exact resolve_of_credentials variant same.homes acting groups (same.credentials decides)
  · exact resolve_calls_nil variant.selected fun name => credentials_calls_nil decides other
  · obtain ⟨_, ended⟩ := resolved_credentials variant.selected resolved
    have attempted := attempt_of_credentials decides ended
    exact ⟨attempted, attempt_pem_iff attempted⟩

/-- A user with a certificate and a key inline, and more fields. -/
def certifiedUser (others : Entries) : Entries :=
  others ++ [(.str "client-certificate-data", .str "YQ=="), (.str "client-key-data", .str "Yg==")]

def certifiedDocument (others : Entries) : Document :=
  .ofUser (certifiedUser others)

/-- A user name with its password. -/
def basicEntries : Entries := [(.str "username", .str "a"), (.str "password", .str "b")]

def pluginEntries : Entries := [(.str "client-key", .str "gone"), (.str "exec", .map [])]

theorem certifiedUser_unset {key : String} (member : key = "token" ∨ key ∈ fileFields) :
    (Value.field (certifiedUser basicEntries) key).truthy = false := by
  simp only [fileFields, List.mem_cons, List.not_mem_nil, or_false] at member
  rcases member with rfl | rfl | rfl | rfl <;> cbv

theorem certified_shadows (w' : World) (homes : SameHomes {} w') :
    SameAbove {} w' (certifiedUser basicEntries) (certifiedUser pluginEntries)
      (certifiedDocument basicEntries).path.parent .clientCertificate := by
  have inline : (Value.field (certifiedUser basicEntries) "client-key-data").truthy = true := by cbv
  refine ⟨homes, fun key counts => ?_, fun key member _ given => ?_, fun plugin => by cases plugin⟩
  · have lower (other : AuthMethod) (below : other ∈ AuthMethod.clientCertificate.below) :
        key ∉ other.fields := fun member => counts (.inl ⟨other, below, member⟩)
    have basic := lower .basic (by decide)
    have plugin := lower .plugin (by decide)
    have file : key ≠ "client-key" := by
      rintro rfl
      exact counts (.inr ⟨by decide, inline⟩)
    simp only [AuthMethod.fields, List.mem_cons, List.not_mem_nil, or_false, not_or] at basic plugin
    have skips (name : String) (other : key ≠ name) (v : Value) (es : Entries) :
        Value.field? ((.str name, v) :: es) key = Value.field? es key := by
      simp [Value.field?, Value.lookup?, Value.same, Ne.symm other]
    unfold certifiedUser basicEntries pluginEntries
    simp only [List.cons_append, List.nil_append, skips _ file, skips _ basic.1, skips _ basic.2,
      skips _ plugin.1]
  · rw [certifiedUser_unset (.inr member)] at given
    cases given

theorem certified_user_keeps_certificate :
    let w' : World := { plugin := .header "Bearer x" }
    resolve w' (certifiedDocument pluginEntries) .null (.str "ua") =
        resolve {} (certifiedDocument basicEntries) .null (.str "ua") ∧
      (resolve {} (certifiedDocument basicEntries) .null (.str "ua")).calls = [] ∧
      ∃ p certificate key,
        (resolve {} (certifiedDocument basicEntries) .null (.str "ua")).result = .ok p ∧
        p.credentials = .pem certificate key := by
  intro w'
  have variant : UserVariant (certifiedDocument basicEntries) (certifiedDocument pluginEntries)
      .null (certifiedUser basicEntries) (certifiedUser pluginEntries) := by
    refine ⟨rfl, fun key other => ?_, by cbv, by cbv⟩
    simp [certifiedDocument, Document.ofUser, Document.single, Value.field, Value.field?,
      Value.lookup?, List.find?_cons, Value.same, Ne.symm other]
  have decides : Decides {} (certifiedUser basicEntries)
      (certifiedDocument basicEntries).path.parent .clientCertificate := by
    refine ⟨⟨"client-certificate", by decide, fun v read => ?_⟩, fun higher above => ?_⟩
    · have inline : material {} (certifiedUser basicEntries) "client-certificate"
          (certifiedDocument basicEntries).path.parent = .ok (.str "YQ==") := by cbv
      obtain rfl := Except.ok.inj (inline.symm.trans read)
      decide
    · cases higher with
      | token =>
        intro given
        rw [Configures, certifiedUser_unset (.inl rfl)] at given
        cases given
      | tokenFile =>
        intro given
        rw [Configures, certifiedUser_unset (.inr (by decide))] at given
        cases given
      | _ => exact absurd above (by decide)
  have resolved : (resolve {} (certifiedDocument basicEntries) .null (.str "ua")).result =
      .ok (inlineProfile "YQ==" "Yg==") := by cbv
  obtain ⟨same, silent, pem⟩ :=
    first_method_decides variant decides (certified_shadows w' ⟨rfl, rfl, rfl⟩) (.str "ua")
  obtain ⟨certificate, key, made⟩ := (pem _ resolved).2.mp rfl
  exact ⟨same, silent (by decide), _, certificate, key, resolved, made⟩

end ClusterAccess.Kubeconfig
