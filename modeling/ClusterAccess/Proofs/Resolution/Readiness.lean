import ClusterAccess.Proofs.Connection.Readiness
import ClusterAccess.Proofs.Resolution.Secrets
import ClusterAccess.Proofs.Resolution.Verification

/-!
# Resolved profiles and their material

Authorities given inline are decoded while a profile is resolved; a certificate and a key given
inline are kept as they stand. So a resolved profile is ready to use exactly unless its user gives
such material that does not follow the rule for authorities (`resolved_ready_iff`). Material that is
read from files always follows it.
-/

namespace ClusterAccess.Kubeconfig

open Connection

/-- The fields of a user whose values are kept without being decoded. -/
def dataFields : List String := ["client-certificate-data", "client-key-data"]

theorem mem_dataFields {field : String} :
    field ∈ dataFields ↔ field = "client-certificate-data" ∨ field = "client-key-data" := by
  simp [dataFields]

/-- What keeps a resolved profile from being ready: a certificate or a key that its user gives
inline, or authorities with characters that have no bytes. -/
inductive Unready (user : Entries) (p : Profile) : Prop
  | material {field text certificate privateKey : String} :
    p.credentials = .pem certificate privateKey → field ∈ dataFields →
    (Value.field user field).truthy = true → Lax.text (Value.field user field) = .ok text →
    ¬ IsMaterial text → Unready user p
  | authorities {text : String} :
    p.trust = some (.contents text) →
    Text.Utf8.surrogates? (fun _ => true) text.toList ≠ none → Unready user p

variable {w : World} {user : Entries} {base : FilePath} {name : Value} {creds : Credentials}
  {method : AuthMethod}

/-! ### Where material comes from -/

/-- Material that is given is a value of the user, or the base64 text of a file. -/
theorem material_given {kind : String} {v : Value} (read : material w user kind base = .ok v)
    (given : v.truthy = true) :
    (v = Value.field user (kind ++ "-data") ∨ ∃ bytes, v = .str (Text.Base64.ofBytes bytes)) := by
  rw [material_eq] at read
  split at read
  · exact .inl (Except.ok.inj read).symm
  · split at read
    · obtain ⟨p, _, read⟩ := result_bind_ok.mp read
      obtain ⟨bytes, _, read⟩ := result_bind_ok.mp read
      exact .inr ⟨bytes, (Except.ok.inj read).symm⟩
    · rw [← Except.ok.inj read] at given
      cases given

theorem checkMaterial_ok {certificate key : Value}
    (h : checkMaterial certificate key = .ok creds) :
    ∃ first second, creds = .pem first second ∧ Lax.text certificate = .ok first ∧
      Lax.text key = .ok second := by
  unfold checkMaterial at h
  dsimp only at h
  split at h
  · rename_i checked
    obtain rfl := Except.ok.inj h
    obtain ⟨_, second, mapped, keyed, rfl⟩ := Check.also_ok.mp checked
    obtain ⟨first, certified, rfl⟩ := Check.map_ok.mp mapped
    refine ⟨first, second, rfl, ?_, ?_⟩
    · simpa [Lax.required, Value.field?, Value.lookup?, Value.same, Check.within_ok] using certified
    · simpa [Lax.required, Value.field?, Value.lookup?, Value.same, Check.within_ok] using keyed
  · cases h

theorem tokenFromFile_header {v : Value} (h : tokenFromFile w base v = .ok creds) :
    ∃ header, creds = .header header := by
  obtain ⟨p, _, h⟩ := result_bind_ok.mp h
  obtain ⟨bytes, _, h⟩ := result_bind_ok.mp h
  split at h
  · exact ⟨_, (Except.ok.inj h).symm⟩
  · cases h

theorem basicHeader_header {password : Value} (h : basicHeader name password = .ok creds) :
    ∃ header, creds = .header header := by
  obtain ⟨_, _, h⟩ := result_bind_ok.mp h
  obtain ⟨_, _, h⟩ := result_bind_ok.mp h
  obtain ⟨_, _, h⟩ := result_bind_ok.mp h
  exact ⟨_, (Except.ok.inj h).symm⟩

theorem pluginCredentials_header (h : (pluginCredentials w name base).result = .ok creds) :
    ∃ header, creds = .header header := by
  obtain ⟨_, _, h⟩ := Traced.result_bind_ok.mp h
  split at h
  · cases h
  · cases h
  · split at h
    · cases h
    · exact ⟨_, (Except.ok.inj h).symm⟩

theorem basicOrPlugin_header (h : (basicOrPlugin w user name base).result = .ok (creds, method)) :
    ∃ header, creds = .header header := by
  unfold basicOrPlugin at h
  dsimp only at h
  split at h
  · obtain ⟨_, read, h⟩ := Traced.result_bind_ok.mp h
    obtain ⟨rfl, _⟩ := Prod.mk.inj (Except.ok.inj h)
    exact basicHeader_header read
  · split at h
    · obtain ⟨_, read, h⟩ := Traced.result_bind_ok.mp h
      obtain ⟨rfl, _⟩ := Prod.mk.inj (Except.ok.inj h)
      exact pluginCredentials_header read
    · cases h

/-- Only material that is given for both ends in a certificate with its key. -/
theorem credentials_pem {first second : String}
    (h : (credentials w user name base).result = .ok (.pem first second, method)) :
    ∃ certificate key, material w user "client-certificate" base = .ok certificate ∧
      material w user "client-key" base = .ok key ∧ certificate.truthy = true ∧
      key.truthy = true ∧ Lax.text certificate = .ok first ∧ Lax.text key = .ok second := by
  rw [credentials_eq] at h
  split at h
  · obtain ⟨_, _, h⟩ := Traced.result_bind_ok.mp h
    cases (Prod.mk.inj (Except.ok.inj h)).1
  · split at h
    · obtain ⟨_, read, h⟩ := Traced.result_bind_ok.mp h
      obtain ⟨rfl, _⟩ := Prod.mk.inj (Except.ok.inj h)
      obtain ⟨_, header⟩ := tokenFromFile_header read
      cases header
    · obtain ⟨certificate, readCertificate, h⟩ := Traced.result_bind_ok.mp h
      obtain ⟨key, readKey, h⟩ := Traced.result_bind_ok.mp h
      unfold certifiedOr at h
      split at h
      · rename_i both
        rw [Bool.and_eq_true] at both
        obtain ⟨_, checked, h⟩ := Traced.result_bind_ok.mp h
        obtain ⟨rfl, _⟩ := Prod.mk.inj (Except.ok.inj h)
        obtain ⟨_, _, same, text, text'⟩ := checkMaterial_ok checked
        obtain ⟨rfl, rfl⟩ := Credentials.pem.inj same
        exact ⟨certificate, key, readCertificate, readKey, both.1, both.2, text, text'⟩
      · split at h
        · cases h
        · obtain ⟨_, header⟩ := basicOrPlugin_header h
          cases header

theorem isMaterial_of_given {kind text : String} {v : Value}
    (read : material w user kind base = .ok v) (given : v.truthy = true)
    (spelled : Lax.text v = .ok text)
    (sound : (Value.field user (kind ++ "-data")).truthy = true →
      Lax.text (Value.field user (kind ++ "-data")) = .ok text → IsMaterial text) :
    IsMaterial text := by
  rcases material_given read given with rfl | ⟨bytes, rfl⟩
  · exact sound given spelled
  · rw [← Except.ok.inj spelled]
    exact isMaterial_ofBytes bytes

theorem material_of_given {kind : String}
    (given : (Value.field user (kind ++ "-data")).truthy = true) :
    material w user kind base = .ok (Value.field user (kind ++ "-data")) := by
  rw [material_eq, if_pos given]

/-- A certificate and its key decode if those values of the user do that stand for them. -/
theorem decodes_iff (h : (credentials w user name base).result = .ok (creds, method)) :
    Decodes creds ↔ ∀ certificate privateKey, creds = .pem certificate privateKey →
      ∀ field ∈ dataFields, (Value.field user field).truthy = true →
        ∀ text, Lax.text (Value.field user field) = .ok text → IsMaterial text := by
  constructor
  · intro decodes certificate privateKey pem field member given text spelled
    obtain ⟨first, second⟩ := decodes certificate privateKey pem
    rw [pem] at h
    obtain ⟨v, v', read, read', _, _, certified, keyed⟩ := credentials_pem h
    rcases mem_dataFields.mp member with rfl | rfl
    · have same : material w user "client-certificate" base =
          .ok (Value.field user "client-certificate-data") := material_of_given given
      obtain rfl := Except.ok.inj (read.symm.trans same)
      obtain rfl := Except.ok.inj (certified.symm.trans spelled)
      exact first
    · have same : material w user "client-key" base =
          .ok (Value.field user "client-key-data") := material_of_given given
      obtain rfl := Except.ok.inj (read'.symm.trans same)
      obtain rfl := Except.ok.inj (keyed.symm.trans spelled)
      exact second
  · intro sound certificate privateKey pem
    have inline := sound certificate privateKey pem
    rw [pem] at h
    obtain ⟨v, v', read, read', given, given', certified, keyed⟩ := credentials_pem h
    constructor
    · refine isMaterial_of_given read given certified fun given spelled => ?_
      exact inline _ (mem_dataFields.mpr (.inl rfl)) given _ spelled
    · refine isMaterial_of_given read' given' keyed fun given spelled => ?_
      exact inline _ (mem_dataFields.mpr (.inr rfl)) given _ spelled

/-! ### Resolved profiles -/

variable {s : Steps} {d : Document} {context userAgent : Value} {p : Profile}

theorem Steps.Complete.selected_user (h : s.Complete w d context userAgent) :
    selected? d context "users" "user" = some s.user :=
  selected?_of_referenced h.found h.taken.user

theorem Steps.Taken.profile_parts (h : s.Taken w d name userAgent) :
    s.profile.credentials = s.credentials ∧ s.profile.trust = s.trust := by
  obtain ⟨_, credentials, trust, _⟩ := profile_ok.mp h.checked
  unfold Steps.profile
  split
  · exact ⟨credentials, trust⟩
  · exact ⟨credentials, trust⟩

/-- A resolved profile has the credentials of its user. -/
theorem resolved_credentials {user : Entries}
    (selected : selected? d context "users" "user" = some user)
    (h : (resolve w d context userAgent).result = .ok p) :
    ∃ method, (credentials w user (contextName d context) d.path.parent).result =
      .ok (p.credentials, method) := by
  obtain ⟨s, _, complete, rfl, _⟩ := resolve_ok h
  obtain rfl := Option.some.inj (complete.selected_user.symm.trans selected)
  rw [complete.taken.profile_parts.1]
  exact ⟨s.method, complete.taken.credentials⟩

/-- A resolved profile trusts the authorities of its cluster. -/
theorem resolved_trust {cluster : Entries}
    (selected : selected? d context "clusters" "cluster" = some cluster)
    (h : (resolve w d context userAgent).result = .ok p) :
    authorities w cluster d.path.parent = .ok p.trust := by
  obtain ⟨s, _, complete, rfl, _⟩ := resolve_ok h
  obtain rfl := Option.some.inj (complete.selected_cluster.symm.trans selected)
  rw [complete.taken.profile_parts.2]
  exact complete.taken.trust

/-- Inline authorities are the text whose bytes the value stands for. -/
theorem inlineAuthorities_ok {s : String} {source : TrustSource} :
    inlineAuthorities s = .ok source ↔ ∃ bytes text, strictBytes s = .ok bytes ∧
      Text.Utf8.toString? bytes = some text ∧ source = .contents text := by
  unfold inlineAuthorities strictBytes
  dsimp only
  constructor
  · intro h
    split at h
    · cases h
    · split at h
      · cases h
      · rename_i bytes strict
        split at h
        · rename_i text written
          exact ⟨bytes, text, strict, written, (Except.ok.inj h).symm⟩
        · cases h
  · rintro ⟨bytes, text, strict, written, rfl⟩
    have plain : ((Text.squeeze s).toList.any fun c => 0x80 ≤ c.toNat) = false := by
      rw [List.any_eq_false]
      intro c member
      have bound := Text.Base64.ascii_of_inAlphabet (Text.Base64.decode_alphabet strict c member)
      simp only [decide_eq_true_eq]
      omega
    rw [plain, if_neg Bool.false_ne_true, strict]
    dsimp only
    rw [written]

/-- Authorities given inline have been decoded by the time the profile is there. -/
theorem authorities_contents {cluster : Entries} {text : String}
    (h : authorities w cluster base = .ok (some (.contents text))) :
    ∃ s bytes, Value.field cluster "certificate-authority-data" = .str s ∧
      strictBytes s = .ok bytes ∧ Text.Utf8.toString? bytes = some text := by
  unfold authorities at h
  dsimp only at h
  split at h
  · split at h
    · rename_i s inline
      cases decoded : inlineAuthorities s with
      | error e =>
        rw [decoded] at h
        cases h
      | ok source =>
        rw [decoded] at h
        obtain rfl := Option.some.inj (Except.ok.inj h)
        obtain ⟨bytes, _, strict, written, same⟩ := inlineAuthorities_ok.mp decoded
        obtain rfl := TrustSource.contents.inj same
        exact ⟨s, bytes, inline, strict, written⟩
    · cases h
  · split at h
    · obtain ⟨p, _, h⟩ := result_bind_ok.mp h
      cases Except.ok.inj h
    · cases h

/-- A resolved profile is ready unless its user gives material that does not follow the rule by
which its authorities were decoded. -/
theorem resolved_ready_iff (h : (resolve w d context userAgent).result = .ok p) :
    ∃ cluster user, selected? d context "clusters" "cluster" = some cluster ∧
      selected? d context "users" "user" = some user ∧
      (∀ text, p.trust = some (.contents text) → ∃ s bytes,
        Value.field cluster "certificate-authority-data" = .str s ∧
        strictBytes s = .ok bytes ∧ Text.Utf8.toString? bytes = some text) ∧
      ∀ store, Ready store p ↔ ¬ Unready user p := by
  obtain ⟨s, shown, complete, rfl, _⟩ := resolve_ok h
  obtain ⟨credentials, trust⟩ := complete.taken.profile_parts
  refine ⟨s.cluster, s.user, complete.selected_cluster, complete.selected_user, fun text given => ?_,
    fun store => ?_⟩
  · have trusted := complete.taken.trust
    rw [← trust, given] at trusted
    exact authorities_contents trusted
  · rw [ready_iff, credentials, decodes_iff complete.taken.credentials]
    constructor
    · rintro ⟨sound, encodes⟩ unready
      cases unready with
      | material pem member given spelled unsound =>
        rw [credentials] at pem
        exact unsound (sound _ _ pem _ member given _ spelled)
      | authorities given wordless => exact wordless (encodes _ given)
    · intro ready
      refine ⟨fun certificate privateKey pem field member given text spelled => ?_,
        fun text given => ?_⟩
      · refine Classical.byContradiction fun unsound => ?_
        exact ready (.material (credentials.trans pem) member given spelled unsound)
      · refine Classical.byContradiction fun wordless => ?_
        exact ready (.authorities given wordless)

def inlineUser (certificate key : String) : Entries :=
  [(.str "client-certificate-data", .str certificate), (.str "client-key-data", .str key)]

/-- A document whose user has a certificate and a key inline. -/
def inlineDocument (certificate key : String) : Document :=
  .single (.str "c") [(.str "server", .str "https://h")] (inlineUser certificate key)

def inlineProfile (certificate key : String) : Profile :=
  { endpoint := "https://h", credentials := .pem certificate key, trust := none, userAgent := "ua",
    verify := true, impersonate := .null, groups := [] }

theorem inlineDocument_result :
    (resolve {} (inlineDocument "A" "Yg==") .null (.str "ua")).result =
      .ok (inlineProfile "A" "Yg==") := by
  cbv

theorem wrapped_material_ready :
    (resolve {} (inlineDocument "Y Q=\n=" "Yg==") .null (.str "ua")).result =
      .ok (inlineProfile "Y Q=\n=" "Yg==") ∧ Ready {} (inlineProfile "Y Q=\n=" "Yg==") := by
  have resolved : (resolve {} (inlineDocument "Y Q=\n=" "Yg==") .null (.str "ua")).result =
      .ok (inlineProfile "Y Q=\n=" "Yg==") := by cbv
  obtain ⟨_, user, _, selected, _, ready⟩ := resolved_ready_iff resolved
  have found : selected? (inlineDocument "Y Q=\n=" "Yg==") .null "users" "user" =
      some (inlineUser "Y Q=\n=" "Yg==") := by cbv
  obtain rfl := Option.some.inj (selected.symm.trans found)
  have first : Lax.text (Value.field (inlineUser "Y Q=\n=" "Yg==") "client-certificate-data") =
      .ok "Y Q=\n=" := by cbv
  have second : Lax.text (Value.field (inlineUser "Y Q=\n=" "Yg==") "client-key-data") =
      .ok "Yg==" := by cbv
  have certificate : IsMaterial "Y Q=\n=" := ⟨by simp, [97], by cbv⟩
  have key : IsMaterial "Yg==" := ⟨by simp, [98], by cbv⟩
  refine ⟨resolved, (ready {}).mpr fun unready => ?_⟩
  cases unready with
  | material _ member _ spelled unsound =>
    rcases mem_dataFields.mp member with rfl | rfl
    · obtain rfl := Except.ok.inj (first.symm.trans spelled)
      exact unsound certificate
    · obtain rfl := Except.ok.inj (second.symm.trans spelled)
      exact unsound key
  | authorities given => cases given

theorem lone_digit_unready :
    ∃ p, (resolve {} (inlineDocument "A" "Yg==") .null (.str "ua")).result = .ok p ∧
      ∀ store c, (build store p).2 ≠ .ok c := by
  refine ⟨_, inlineDocument_result, fun store c built => ?_⟩
  rw [build_result] at built
  have fails : (build {} (inlineProfile "A" "Yg==")).2.isOk = false := by decide +kernel
  rw [built] at fails
  cases fails

end ClusterAccess.Kubeconfig
