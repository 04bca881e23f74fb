import ClusterAccess.Proofs.Resolution.Contract
import ClusterAccess.Proofs.Resolution.Ranks

/-!
# What a resolution rejects

A step of a resolution rejects what it reads with one of a few messages. The rejections of a
section, of the authorities of a cluster and of the credentials of a user are listed here with what
they reject, and the lists are exact (`find_rejects`, `authorities_rejects`, `credentials_rejects`).
-/

namespace ClusterAccess

/-! ### Failures that reject something -/

/-- The failures that a resolution does not prepare for. -/
def Failure.isStray (e : Failure) : Bool := !e.isFaultOrInvalid

section Rejects

variable {α : Type} {e e' : Failure}

/-- A result is a fault, or a refusal of values. -/
abbrev Rejects (x : Except Failure α) (e : Failure) : Prop := Strays Failure.isStray x e

theorem rejects_error (foreseen : e'.isFaultOrInvalid = true) :
    Rejects (.error e' : Except Failure α) e ↔ e = e' :=
  strays_error (by rw [Failure.isStray, foreseen]; rfl)

theorem not_rejects_stray (stray : e'.isFaultOrInvalid = false) :
    ¬ Rejects (.error e' : Except Failure α) e :=
  not_strays_expected (by rw [Failure.isStray, stray]; rfl) e

theorem not_rejects_textOf {v : Value} : ¬ Rejects (Failure.textOf v) e := by
  rintro ⟨failed, foreseen⟩
  rw [(textOf_error.mp failed).2] at foreseen
  cases foreseen

/-- A failure that tells the text of a value is raised if the value has one. -/
theorem rejects_told {v : Value} {f : String → Failure}
    (foreseen : ∀ shown, (f shown).isFaultOrInvalid = true) :
    Rejects (Failure.textOf v >>= fun shown => (.error (f shown) : Except Failure α)) e ↔
      v.isShowable = true ∧ e = f v.display := by
  unfold Failure.textOf
  cases v.isShowable with
  | true => exact (rejects_error (foreseen _)).trans (by simp)
  | false => exact iff_of_false (not_rejects_stray rfl) (by simp)

/-- A change of failures that leaves the stray ones as they are. -/
theorem rejects_mapError {x : Except Failure α} {f : Failure → Failure}
    (kept : ∀ e, e.isFaultOrInvalid = false → f e = e) (rejected : Rejects (x.mapError f) e) :
    ∃ e', Rejects x e' ∧ e = f e' := by
  obtain ⟨failed, foreseen⟩ := rejected
  obtain ⟨e', ended, rfl⟩ := mapError_error.mp failed
  refine ⟨e', ⟨ended, ?_⟩, rfl⟩
  cases stray : e'.isFaultOrInvalid with
  | true => rw [Failure.isStray, stray]; rfl
  | false =>
    rw [kept e' stray, Failure.isStray, stray] at foreseen
    cases foreseen

end Rejects

namespace Kubeconfig

open Connection

inductive Rejection
  | noContext
  | notAList (sectionName : String)
  | notAMapping (itemKey name : String)
  | notFound (kind name : String)
  | noServer (clusterName : String)
  | groupsNotAList (userName : String)
  | authoritiesNotText
  | authoritiesNotBase64 (e : Text.Base64.Error)
  | authoritiesNotUtf8
  | unreadable (p : FilePath) (e : FileError)
  | tokenNotUtf8 (p : FilePath)
  | unpaired
  | noCredentials
  | pluginFailed (m : String)
  | noPluginToken
  | invalid (issues : List Issue)

namespace Rejection

def message : Rejection → String
  | .noContext => "No context selected and current-context is not set"
  | .notAList sectionName => "'" ++ sectionName ++ "' must be a list"
  | .notAMapping itemKey name => itemKey ++ " '" ++ name ++ "' must be a mapping"
  | .notFound kind name => kind ++ " '" ++ name ++ "' not found in kubeconfig"
  | .noServer clusterName => "Cluster '" ++ clusterName ++ "' has no server"
  | .groupsNotAList userName => "as-groups of user '" ++ userName ++ "' must be a list"
  | .authoritiesNotText => "certificate-authority-data must be a string"
  | .authoritiesNotBase64 _ => "certificate-authority-data is not valid base64 PEM"
  | .authoritiesNotUtf8 => "certificate-authority-data is not valid base64 PEM"
  | .unreadable p e => "Cannot read " ++ p.text ++ ": " ++ e.message
  | .tokenNotUtf8 p => "tokenFile " ++ p.text ++ " is not valid UTF-8"
  | .unpaired => unpairedMessage
  | .noCredentials => "User has no supported credentials"
  | .pluginFailed m => "Authentication plugin failed: " ++ m
  | .noPluginToken => "Authentication plugin produced no bearer token"
  | .invalid issues => "Invalid kubeconfig values: " ++ (Failure.invalid issues).message

/-- The failure of what was read, decoded, checked or run. -/
def cause : Rejection → Option Failure
  | .authoritiesNotBase64 e => some (.base64 e)
  | .authoritiesNotUtf8 => some .undecodable
  | .unreadable _ e => some (.file e)
  | .tokenNotUtf8 _ => some .undecodable
  | .pluginFailed m => some (.plugin m)
  | .invalid issues => some (.invalid issues)
  | _ => none

/-- The fault of a step, which knows neither the file nor the context. -/
def fault (r : Rejection) : Failure := Failure.kubeconfig r.message r.cause

/-- What a step raises; values that are refused make a fault only later. -/
def raised : Rejection → Failure
  | .invalid issues => .invalid issues
  | r => r.fault

theorem invalidValues_raised (r : Rejection) : invalidValues r.raised = r.fault := by
  cases r <;> rfl

end Rejection

/-! ### What is rejected -/

/-- A section, or the entry in it that carries a name. -/
inductive SectionRejected (document : Entries) (sectionName itemKey : String) (name : Value) :
    Rejection → Prop
  | list : (∀ xs, ((Value.field document sectionName).orElse (.list [])).untied ≠ .list xs) →
    SectionRejected document sectionName itemKey name (.notAList sectionName)
  | mapping {xs : List Value} {entry : Entries} : elements document sectionName = .ok xs →
    xs.findSome? (isNamed name) = some entry →
    (∀ es, ((Value.field entry itemKey).orElse (.map [])).untied ≠ .map es) →
    name.isShowable = true →
    SectionRejected document sectionName itemKey name (.notAMapping itemKey name.display)

/-- What a context refers to in a section. -/
inductive ReferenceRejected (document selected : Entries) (sectionName key kind : String) :
    Rejection → Prop
  | entry {r : Rejection} :
    SectionRejected document sectionName key (referredName selected key) r →
    ReferenceRejected document selected sectionName key kind r
  | missing : find document sectionName key (referredName selected key) = .ok none →
    (referredName selected key).isShowable = true →
    ReferenceRejected document selected sectionName key kind
      (.notFound kind (referredName selected key).display)

/-- A text of inline authorities that is no base64, or not the base64 of a text. -/
inductive InlineRejected (s : String) : Rejection → Prop
  | base64 {e : Text.Base64.Error} :
    ((Text.squeeze s).toList.any fun c => 0x80 ≤ c.toNat) = false → strictBytes s = .error e →
    InlineRejected s (.authoritiesNotBase64 e)
  | utf8 {bytes : List UInt8} :
    ((Text.squeeze s).toList.any fun c => 0x80 ≤ c.toNat) = false → strictBytes s = .ok bytes →
    Text.Utf8.toString? bytes = none → InlineRejected s .authoritiesNotUtf8

inductive AuthoritiesRejected (cluster : Entries) : Rejection → Prop
  | type : (Value.field cluster "certificate-authority-data").truthy = true →
    (∀ s, Value.field cluster "certificate-authority-data" ≠ .str s) →
    AuthoritiesRejected cluster .authoritiesNotText
  | inline {s : String} {r : Rejection} :
    Value.field cluster "certificate-authority-data" = .str s → (Value.str s).truthy = true →
    InlineRejected s r → AuthoritiesRejected cluster r

/-- A file that the system can be asked for, and does not give. -/
inductive FileRejected (w : World) (base : FilePath) (v : Value) : Rejection → Prop
  | unreadable {p : FilePath} {e : FileError} : referencedPath w base v = .ok p →
    (∀ e, ¬ Unreadable p e) → w.read p = .error e → FileRejected w base v (.unreadable p e)

inductive TokenFileRejected (w : World) (base : FilePath) (v : Value) : Rejection → Prop
  | file {r : Rejection} : FileRejected w base v r → TokenFileRejected w base v r
  | utf8 {p : FilePath} {bytes : List UInt8} : referencedPath w base v = .ok p →
    readReferenced w p = .ok bytes → Text.Utf8.toString? bytes = none →
    TokenFileRejected w base v (.tokenNotUtf8 p)

def MaterialRejected (w : World) (user : Entries) (kind : String) (base : FilePath)
    (r : Rejection) : Prop :=
  (Value.field user (kind ++ "-data")).truthy = false ∧ (Value.field user kind).truthy = true ∧
    FileRejected w base (Value.field user kind) r

/-- A certificate and a key of which one is missing, or whose values do not fit. -/
inductive PairRejected (certificate key : Value) : Rejection → Prop
  | values {issues : List Issue} : (certificate.truthy && key.truthy) = true →
    checkMaterial certificate key = .error (.invalid issues) →
    PairRejected certificate key (.invalid issues)
  | unpaired : (certificate.truthy && key.truthy) = false → PairRejected certificate key .unpaired

inductive PluginRejected : PluginBehaviour → Rejection → Prop
  | failed (m : String) : PluginRejected (.fails m) (.pluginFailed m)
  | silent : PluginRejected .silent .noPluginToken
  | empty : PluginRejected (.header "") .noPluginToken

/-- What a method reads. An inline token, or a user name with a password, is never rejected. -/
inductive MethodRejected (w : World) (user : Entries) (base : FilePath) :
    AuthMethod → Rejection → Prop
  | tokenFile {r : Rejection} : TokenFileRejected w base (Value.field user "tokenFile") r →
    MethodRejected w user base .tokenFile r
  | certificate {r : Rejection} : MaterialRejected w user "client-certificate" base r →
    MethodRejected w user base .clientCertificate r
  | key {r : Rejection} {certificate : Value} :
    material w user "client-certificate" base = .ok certificate →
    MaterialRejected w user "client-key" base r → MethodRejected w user base .clientCertificate r
  | pair {r : Rejection} {certificate key : Value} :
    material w user "client-certificate" base = .ok certificate →
    material w user "client-key" base = .ok key → PairRejected certificate key r →
    MethodRejected w user base .clientCertificate r
  | plugin {r : Rejection} : PluginRejected w.plugin r → MethodRejected w user base .plugin r

inductive CredentialsRejected (w : World) (user : Entries) (base : FilePath) : Rejection → Prop
  | method {m : AuthMethod} {r : Rejection} : Decides w user base m →
    MethodRejected w user base m r → CredentialsRejected w user base r
  | none : (∀ m, ¬ Configures w user base m) → CredentialsRejected w user base .noCredentials

/-! ### Sections and references -/

section Sections

variable {document selected : Entries} {sectionName key kind : String} {name : Value} {e : Failure}

theorem elements_rejects : Rejects (elements document sectionName) e ↔
    (∀ xs, ((Value.field document sectionName).orElse (.list [])).untied ≠ .list xs) ∧
      e = (Rejection.notAList sectionName).fault := by
  unfold elements
  split
  · rename_i xs listed
    exact iff_of_false (not_strays_ok _ _) fun h => h.1 xs listed
  · rename_i unlisted
    exact (rejects_error rfl).trans ⟨fun same => ⟨unlisted, same⟩, fun h => h.2⟩

theorem item_rejects {entry : Entries} : Rejects (item entry key name) e ↔
    (∀ es, ((Value.field entry key).orElse (.map [])).untied ≠ .map es) ∧
      name.isShowable = true ∧ e = (Rejection.notAMapping key name.display).fault := by
  unfold item
  split
  · rename_i es mapped
    exact iff_of_false (not_strays_ok _ _) fun h => h.1 es mapped
  · rename_i unmapped
    exact (rejects_told fun _ => rfl).trans ⟨fun h => ⟨unmapped, h⟩, fun h => h.2⟩

theorem find_rejects : Rejects (find document sectionName key name) e ↔
    ∃ r, SectionRejected document sectionName key name r ∧ e = r.fault := by
  unfold find
  refine strays_bind.trans ?_
  constructor
  · rintro (rejected | ⟨xs, listed, rejected⟩)
    · obtain ⟨unlisted, rfl⟩ := elements_rejects.mp rejected
      exact ⟨_, .list unlisted, rfl⟩
    · split at rejected
      · exact (not_strays_ok _ _ rejected).elim
      · rename_i entry carries
        obtain ⟨unmapped, shows, rfl⟩ := item_rejects.mp (strays_map.mp rejected)
        exact ⟨_, .mapping listed carries unmapped shows, rfl⟩
  · rintro ⟨r, rejected, rfl⟩
    cases rejected with
    | list unlisted => exact .inl (elements_rejects.mpr ⟨unlisted, rfl⟩)
    | mapping listed carries unmapped shows =>
      refine .inr ⟨_, listed, ?_⟩
      rw [carries]
      exact strays_map.mpr (item_rejects.mpr ⟨unmapped, shows, rfl⟩)

theorem referenced_rejects :
    Rejects (referenced document selected sectionName key kind) e ↔
      ∃ r, ReferenceRejected document selected sectionName key kind r ∧ e = r.fault := by
  unfold referenced
  refine strays_bind.trans ?_
  constructor
  · rintro (rejected | ⟨found, read, rejected⟩)
    · obtain ⟨r, named, rfl⟩ := find_rejects.mp rejected
      exact ⟨r, .entry named, rfl⟩
    · cases found with
      | some es => exact (not_strays_ok _ _ rejected).elim
      | none =>
        obtain ⟨shows, rfl⟩ := (rejects_told fun _ => rfl).mp rejected
        exact ⟨_, .missing read shows, rfl⟩
  · rintro ⟨r, rejected, rfl⟩
    cases rejected with
    | entry rejected => exact .inl (find_rejects.mpr ⟨r, rejected, rfl⟩)
    | missing read shows =>
      exact .inr ⟨none, read, (rejects_told fun _ => rfl).mpr ⟨shows, rfl⟩⟩

end Sections

/-! ### Authorities and credentials -/

section Entries

variable {w : World} {cluster user : Entries} {base : FilePath} {name v : Value} {e : Failure}

theorem checkMaterial_error {certificate key : Value}
    (h : checkMaterial certificate key = .error e) : ∃ issues, e = .invalid issues := by
  unfold checkMaterial at h
  dsimp only at h
  split at h
  · cases h
  · exact ⟨_, (Except.error.inj h).symm⟩

theorem not_rejects_referencedPath : ¬ Rejects (referencedPath w base v) e := by
  intro rejected
  obtain ⟨failed, foreseen⟩ := strays_bind_pure.mp rejected
  rw [Failure.isStray, (namedPath_error.mp failed).unexpected] at foreseen
  cases foreseen

theorem not_rejects_basicHeader {password : Value} : ¬ Rejects (basicHeader v password) e := by
  intro rejected
  rcases strays_bind.mp rejected with rejected | ⟨shownUser, _, rejected⟩
  · exact not_rejects_textOf rejected
  · rcases strays_bind.mp rejected with rejected | ⟨shown, _, rejected⟩
    · exact not_rejects_textOf rejected
    · have encoded := strays_bind_pure.mp (strays_bind_pure.mp rejected)
      unfold Failure.checkSurrogates at encoded
      split at encoded
      · exact not_rejects_stray rfl encoded
      · exact not_strays_ok _ _ encoded

theorem inlineAuthorities_of_ascii {s : String}
    (ascii : ((Text.squeeze s).toList.any fun c => 0x80 ≤ c.toNat) = false) :
    inlineAuthorities s = match strictBytes s with
      | .error e => .error (Rejection.authoritiesNotBase64 e).raised
      | .ok bytes =>
        match Text.Utf8.toString? bytes with
        | some text => .ok (.contents text)
        | none => .error Rejection.authoritiesNotUtf8.raised := by
  unfold inlineAuthorities strictBytes
  dsimp only
  rw [ascii, if_neg Bool.false_ne_true]
  cases Text.Base64.decode .strict (Text.squeeze s).toList with
  | error e => rfl
  | ok bytes =>
    dsimp only
    cases Text.Utf8.toString? bytes <;> rfl

theorem inlineAuthorities_rejects {s : String} :
    Rejects (inlineAuthorities s) e ↔ ∃ r, InlineRejected s r ∧ e = r.raised := by
  constructor
  · intro rejected
    cases foreign : (Text.squeeze s).toList.any fun c => 0x80 ≤ c.toNat with
    | true =>
      unfold inlineAuthorities at rejected
      dsimp only at rejected
      rw [if_pos foreign] at rejected
      exact (not_rejects_stray rfl rejected).elim
    | false =>
      rw [inlineAuthorities_of_ascii foreign] at rejected
      cases decoded : strictBytes s with
      | error e' =>
        rw [decoded] at rejected
        obtain rfl := (rejects_error rfl).mp rejected
        exact ⟨_, .base64 foreign decoded, rfl⟩
      | ok bytes =>
        rw [decoded] at rejected
        dsimp only at rejected
        split at rejected
        · exact (not_strays_ok _ _ rejected).elim
        · rename_i unwritten
          obtain rfl := (rejects_error rfl).mp rejected
          exact ⟨_, .utf8 foreign decoded unwritten, rfl⟩
  · rintro ⟨r, rejected, rfl⟩
    cases rejected with
    | base64 ascii failed =>
      rw [inlineAuthorities_of_ascii ascii, failed]
      exact (rejects_error rfl).mpr rfl
    | utf8 ascii decoded unwritten =>
      rw [inlineAuthorities_of_ascii ascii, decoded]
      dsimp only
      rw [unwritten]
      exact (rejects_error rfl).mpr rfl

theorem authorities_rejects : Rejects (authorities w cluster base) e ↔
    ∃ r, AuthoritiesRejected cluster r ∧ e = r.raised := by
  unfold authorities
  dsimp only
  constructor
  · intro rejected
    split at rejected
    · rename_i given
      split at rejected
      · rename_i s inline
        rw [inline] at given
        obtain ⟨r, refused, rfl⟩ := inlineAuthorities_rejects.mp (strays_map.mp rejected)
        exact ⟨r, .inline inline given refused, rfl⟩
      · rename_i other
        obtain rfl := (rejects_error rfl).mp rejected
        exact ⟨_, .type given other, rfl⟩
    · split at rejected
      · exact (not_rejects_referencedPath (strays_bind_pure.mp rejected)).elim
      · exact (not_strays_ok _ _ rejected).elim
  · rintro ⟨r, rejected, rfl⟩
    cases rejected with
    | type given other =>
      rw [if_pos given]
      split
      · rename_i s inline
        exact absurd inline (other s)
      · exact (rejects_error rfl).mpr rfl
    | inline inline given rejected =>
      rw [inline, if_pos given]
      exact strays_map.mpr (inlineAuthorities_rejects.mpr ⟨r, rejected, rfl⟩)

theorem readReferenced_of_readable {p : FilePath} (readable : ∀ e, ¬ Unreadable p e) :
    readReferenced w p = match w.read p with
      | .ok bytes => .ok bytes
      | .error e => .error (Rejection.unreadable p e).raised := by
  unfold readReferenced Failure.checkSurrogates
  cases found : Text.Utf8.surrogates? (fun n => !Text.Utf16.isByteMark n) p.text.toList with
  | some found' => exact absurd (.surrogate found) (readable _)
  | none =>
    cases nul : World.hasNul p with
    | true => exact absurd (.null found nul) (readable _)
    | false => cases w.read p <;> rfl

theorem readReferenced_rejects {p : FilePath} : Rejects (readReferenced w p) e ↔
    (∀ e, ¬ Unreadable p e) ∧ ∃ e', w.read p = .error e' ∧
      e = (Rejection.unreadable p e').raised := by
  constructor
  · rintro ⟨failed, foreseen⟩
    -- A path that cannot be asked for fails as well, but with a failure that is stray.
    have readable : ∀ e, ¬ Unreadable p e := by
      intro e' unreadable
      obtain ⟨failed', stray⟩ := readReferenced_strays.mpr unreadable
      obtain rfl := Except.error.inj (failed.symm.trans failed')
      rw [Failure.isStray, stray] at foreseen
      cases foreseen
    rw [readReferenced_of_readable readable] at failed
    split at failed
    · cases failed
    · rename_i e' unread
      exact ⟨readable, e', unread, (Except.error.inj failed).symm⟩
  · rintro ⟨readable, e', unread, rfl⟩
    rw [readReferenced_of_readable readable, unread]
    exact (rejects_error rfl).mpr rfl

/-- What a file is read for is rejected if the file is, or if its contents are. -/
theorem readsFile_rejects {α : Type} {f : FilePath → List UInt8 → Except Failure α} :
    Rejects (readsFile w base v f) e ↔ (∃ r, FileRejected w base v r ∧ e = r.raised) ∨
      ∃ p bytes, referencedPath w base v = .ok p ∧ readReferenced w p = .ok bytes ∧
        Rejects (f p bytes) e := by
  constructor
  · intro rejected
    rcases strays_bind.mp rejected with rejected | ⟨p, named, rejected⟩
    · exact (not_rejects_referencedPath rejected).elim
    · rcases strays_bind.mp rejected with rejected | ⟨bytes, read, rejected⟩
      · obtain ⟨readable, e', unread, rfl⟩ := readReferenced_rejects.mp rejected
        exact .inl ⟨_, .unreadable named readable unread, rfl⟩
      · exact .inr ⟨p, bytes, named, read, rejected⟩
  · rintro (⟨r, ⟨named, readable, unread⟩, rfl⟩ | ⟨p, bytes, named, read, rejected⟩)
    · refine strays_bind.mpr (.inr ⟨_, named, strays_bind.mpr (.inl ?_)⟩)
      exact readReferenced_rejects.mpr ⟨readable, _, unread, rfl⟩
    · exact strays_bind.mpr (.inr ⟨p, named, strays_bind.mpr (.inr ⟨bytes, read, rejected⟩)⟩)

theorem tokenFromFile_rejects : Rejects (tokenFromFile w base v) e ↔
    ∃ r, TokenFileRejected w base v r ∧ e = r.raised := by
  rw [tokenFromFile_eq]
  refine readsFile_rejects.trans ?_
  constructor
  · rintro (⟨r, rejected, rfl⟩ | ⟨p, bytes, named, read, rejected⟩)
    · exact ⟨r, .file rejected, rfl⟩
    · split at rejected
      · exact (not_strays_ok _ _ rejected).elim
      · rename_i unwritten
        obtain rfl := (rejects_error rfl).mp rejected
        exact ⟨_, .utf8 named read unwritten, rfl⟩
  · rintro ⟨r, rejected, rfl⟩
    cases rejected with
    | file rejected => exact .inl ⟨r, rejected, rfl⟩
    | utf8 named read unwritten =>
      refine .inr ⟨_, _, named, read, ?_⟩
      rw [unwritten]
      exact (rejects_error rfl).mpr rfl

theorem material_rejects {kind : String} : Rejects (material w user kind base) e ↔
    ∃ r, MaterialRejected w user kind base r ∧ e = r.raised := by
  rw [material_eq]
  unfold MaterialRejected
  split
  · rename_i given
    simp [given, not_strays_ok]
  · rename_i absent
    rw [Bool.not_eq_true] at absent
    split
    · rename_i given
      refine readsFile_rejects.trans ?_
      simp [absent, given, not_strays_ok]
    · rename_i missing
      simp [missing, not_strays_ok]

theorem pairMaterial_rejects {certificate key : Value} :
    Rejects (pairMaterial certificate key) e ↔
      ∃ r, PairRejected certificate key r ∧ e = r.raised := by
  unfold pairMaterial
  constructor
  · intro rejected
    split at rejected
    · rename_i both
      obtain ⟨failed, _⟩ := rejected
      obtain ⟨issues, rfl⟩ := checkMaterial_error failed
      exact ⟨_, .values both failed, rfl⟩
    · rename_i missing
      rw [Bool.not_eq_true] at missing
      obtain rfl := (rejects_error rfl).mp rejected
      exact ⟨_, .unpaired missing, rfl⟩
  · rintro ⟨r, rejected, rfl⟩
    cases rejected with
    | values both failed =>
      rw [if_pos both, failed]
      exact (rejects_error rfl).mpr rfl
    | unpaired missing =>
      rw [missing, if_neg Bool.false_ne_true]
      exact (rejects_error rfl).mpr rfl

theorem pluginCredentials_result : (pluginCredentials w name base).result =
    match w.plugin with
    | .fails m => .error (Rejection.pluginFailed m).raised
    | .silent => .error Rejection.noPluginToken.raised
    | .header h => if h = "" then .error Rejection.noPluginToken.raised else .ok (.header h) := by
  unfold pluginCredentials
  cases w.plugin with
  | fails m => rfl
  | silent => rfl
  | header h => by_cases empty : h = "" <;> simp only [empty, ↓reduceIte] <;> rfl

theorem pluginCredentials_rejects : Rejects (pluginCredentials w name base).result e ↔
    ∃ r, PluginRejected w.plugin r ∧ e = r.raised := by
  rw [pluginCredentials_result]
  constructor
  · intro rejected
    cases behaves : w.plugin with
    | fails m =>
      rw [behaves] at rejected
      exact ⟨_, .failed m, (rejects_error rfl).mp rejected⟩
    | silent =>
      rw [behaves] at rejected
      exact ⟨_, .silent, (rejects_error rfl).mp rejected⟩
    | header h =>
      rw [behaves] at rejected
      dsimp only at rejected
      split at rejected
      · rename_i empty
        rw [empty]
        exact ⟨_, .empty, (rejects_error rfl).mp rejected⟩
      · exact (not_strays_ok _ _ rejected).elim
  · rintro ⟨r, rejected, rfl⟩
    generalize w.plugin = behaviour at rejected ⊢
    cases rejected <;> exact (rejects_error rfl).mpr rfl

/-! ### Methods -/

theorem attempt_rejects {method : AuthMethod} :
    Rejects (attempt w user name base method).result e ↔
      ∃ r, MethodRejected w user base method r ∧ e = r.raised := by
  cases method with
  | token =>
    refine iff_of_false (fun rejected => not_rejects_textOf (strays_map.mp rejected)) ?_
    rintro ⟨r, rejected, _⟩
    cases rejected
  | tokenFile =>
    refine tokenFromFile_rejects.trans ⟨?_, ?_⟩
    · rintro ⟨r, rejected, rfl⟩
      exact ⟨r, .tokenFile rejected, rfl⟩
    · rintro ⟨r, rejected, rfl⟩
      cases rejected with
      | tokenFile rejected => exact ⟨r, rejected, rfl⟩
  | clientCertificate =>
    constructor
    · intro rejected
      rcases strays_bind.mp rejected with rejected | ⟨certificate, read, rejected⟩
      · obtain ⟨r, unread, rfl⟩ := material_rejects.mp rejected
        exact ⟨r, .certificate unread, rfl⟩
      · rcases strays_bind.mp rejected with rejected | ⟨key, read', rejected⟩
        · obtain ⟨r, unread, rfl⟩ := material_rejects.mp rejected
          exact ⟨r, .key read unread, rfl⟩
        · obtain ⟨r, unfit, rfl⟩ := pairMaterial_rejects.mp rejected
          exact ⟨r, .pair read read' unfit, rfl⟩
    · rintro ⟨r, rejected, rfl⟩
      cases rejected with
      | certificate rejected =>
        exact strays_bind.mpr (.inl (material_rejects.mpr ⟨r, rejected, rfl⟩))
      | key read rejected =>
        refine strays_bind.mpr (.inr ⟨_, read, strays_bind.mpr (.inl ?_)⟩)
        exact material_rejects.mpr ⟨r, rejected, rfl⟩
      | pair read read' rejected =>
        refine strays_bind.mpr (.inr ⟨_, read, strays_bind.mpr (.inr ⟨_, read', ?_⟩)⟩)
        exact pairMaterial_rejects.mpr ⟨r, rejected, rfl⟩
  | basic =>
    refine iff_of_false not_rejects_basicHeader ?_
    rintro ⟨r, rejected, _⟩
    cases rejected
  | plugin =>
    refine pluginCredentials_rejects.trans ⟨?_, ?_⟩
    · rintro ⟨r, rejected, rfl⟩
      exact ⟨r, .plugin rejected, rfl⟩
    · rintro ⟨r, rejected, rfl⟩
      cases rejected with
      | plugin rejected => exact ⟨r, rejected, rfl⟩

theorem credentials_rejects : Rejects (credentials w user name base).result e ↔
    ∃ r, CredentialsRejected w user base r ∧ e = r.raised := by
  constructor
  · intro rejected
    rcases decides_or_unset w user base with ⟨m, decides⟩ | unset
    · rw [credentials_of_decides decides] at rejected
      obtain ⟨r, refused, rfl⟩ := attempt_rejects.mp (Traced.strays_bind_pure.mp rejected)
      exact ⟨r, .method decides refused, rfl⟩
    · rw [credentials_of_none unset] at rejected
      exact ⟨_, .none unset, (rejects_error rfl).mp rejected⟩
  · rintro ⟨r, rejected, rfl⟩
    cases rejected with
    | method decides rejected =>
      rw [credentials_of_decides decides]
      exact Traced.strays_bind_pure.mpr (attempt_rejects.mpr ⟨r, rejected, rfl⟩)
    | none unset =>
      rw [credentials_of_none unset]
      exact (rejects_error rfl).mpr rfl

end Entries

end Kubeconfig
end ClusterAccess
