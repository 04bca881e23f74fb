import ClusterAccess.Proofs.Resolution.KeyFiles

/-!
# Credential files without contents

A token file without a token makes a header without one. Of a certificate and a key in files, one
that is empty is refused, but if both are empty the search goes on as if neither was configured
(`blank_credential_files`).
-/

namespace ClusterAccess.Kubeconfig

/-- The steps of a resolution up to the credentials. -/
structure Steps.Prepared (s : Steps) (w : World) (d : Document) (context : Value) : Prop where
  named : (contextName d context).truthy = true
  found : find d.entries "contexts" "context" (contextName d context) = .ok (some s.selected)
  cluster : referenced d.entries s.selected "clusters" "cluster" "Cluster" =
    .ok (s.clusterName, s.cluster)
  user : referenced d.entries s.selected "users" "user" "User" = .ok (s.userName, s.user)
  server : (Value.field s.cluster "server").truthy = true
  groups : actingGroups s.user s.userName = .ok s.groups
  trust : authorities w s.cluster d.path.parent = .ok s.trust

theorem Steps.Prepared.selected_user {s : Steps} {w : World} {d : Document} {context : Value}
    (h : s.Prepared w d context) : selected? d context "users" "user" = some s.user :=
  selected?_of_referenced h.found h.user

/-- A user without a token names a file for it, which has only blanks. -/
structure BlankToken (w : World) (user : Entries) (base : FilePath) (bytes : List UInt8)
    (text : String) : Prop where
  token : (Value.field user "token").truthy = false
  reads : Reads w base (Value.field user "tokenFile") bytes
  written : Text.Utf8.toString? bytes = some text
  blank : Text.trim text = ""

variable {s : Steps} {w : World} {d : Document} {user : Entries} {base : FilePath}
  {context name userAgent : Value} {creds : Credentials} {method : AuthMethod} {e : Failure}
  {shown : String}

theorem resolve_of_prepared (h : s.Prepared w d context) :
    resolve w d context userAgent = finish w d s.selected (contextName d context) userAgent := by
  rw [resolve_eq, h.named, Bool.not_true, if_neg Bool.false_ne_true, h.found]
  rfl

theorem resolveContext_of_prepared (h : s.Prepared w d context) :
    resolveContext w d s.selected name userAgent = (do
      let (p, method) ← Traced.mapFailure invalidValues
        (assembled w d s.cluster s.user name userAgent s.groups)
      pure (← applyVerification s.cluster p, method)) := by
  rw [resolveContext_eq, h.cluster, Traced.lift_ok_bind, h.user]
  simp only [Traced.lift_ok_bind]
  unfold resolveFound
  rw [h.server, Bool.not_true, if_neg Bool.false_ne_true, h.groups, Traced.lift_ok_bind]

theorem assembled_of_prepared (h : s.Prepared w d context) :
    assembled w d s.cluster s.user name userAgent s.groups = (do
      let (creds, method) ← credentials w s.user name d.path.parent
      let p ← Traced.lift (profile (Value.field s.cluster "server") creds s.trust userAgent s.user
        s.groups)
      pure (p, method)) := by
  unfold assembled
  rw [h.trust, Traced.lift_ok_bind]

/-- From the credentials on, no plugin is called. -/
theorem calls_of_prepared (h : s.Prepared w d context) :
    (resolve w d context userAgent).calls =
      (credentials w s.user (contextName d context) d.path.parent).calls := by
  rw [resolve_of_prepared h, finish_calls, resolveContext_of_prepared h, verified_calls,
    assembled_calls h.trust]

/-- Credentials that fail end a resolution in their failure. -/
theorem resolve_of_failure (h : s.Prepared w d context)
    (failed : (credentials w s.user (contextName d context) d.path.parent).result = .error e) :
    (resolve w d context userAgent).result =
      .error (situate d.path (contextName d context) (invalidValues e)) := by
  have assembles : (assembled w d s.cluster s.user (contextName d context) userAgent
      s.groups).result = .error e := by
    rw [assembled_of_prepared h, Traced.bind_of_error failed]
  have resolves : (resolveContext w d s.selected (contextName d context) userAgent).result =
      .error (invalidValues e) := by
    rw [resolveContext_of_prepared h, Traced.result_bind_error]
    refine .inl ?_
    rw [Traced.result_mapFailure, assembles]
    rfl
  rw [resolve_of_prepared h]
  unfold finish
  rw [Traced.result_bind_error]
  refine .inl ?_
  rw [Traced.result_mapFailure, resolves]
  rfl

/-- Credentials that are there end up in the profile, if its other values are accepted. -/
theorem resolve_of_success (h : s.Prepared w d context)
    (written : Failure.textOf (contextName d context) = .ok shown)
    (ended : (credentials w s.user (contextName d context) d.path.parent).result =
      .ok (creds, method))
    {p : Profile} (checked : profile (Value.field s.cluster "server") creds s.trust userAgent s.user
      s.groups = .ok p) :
    ∃ q, (resolve w d context userAgent).result = .ok q ∧ q.credentials = creds := by
  let whole : Steps := { s with credentials := creds, method := method, checked := p }
  have complete : whole.Complete w d context userAgent :=
    ⟨h.named, h.found, ⟨h.cluster, h.user, h.server, h.groups, h.trust, ended, checked⟩⟩
  refine ⟨whole.profile, ?_, complete.taken.profile_parts.1⟩
  rw [resolve_of_complete complete written]

theorem BlankToken.credentials {bytes : List UInt8} {text : String}
    (h : BlankToken w user base bytes text) :
    credentials w user name base = pure (.header "Bearer ", .tokenFile) := by
  obtain ⟨p, reads⟩ := readsFile_of_reads h.reads
  have made : tokenFromFile w base (Value.field user "tokenFile") = .ok (.header "Bearer ") := by
    rw [tokenFromFile_eq, reads, h.written]
    change Except.ok (Credentials.bearer (Text.trim text)) = _
    rw [h.blank]
    rfl
  rw [credentials_eq, h.token, if_neg Bool.false_ne_true, if_pos h.reads.given, made]
  rfl

/-- The fault of a document and its context. -/
def refusal (d : Document) (context : Value) (message : String) : Failure :=
  .fault (FaultOf.kubeconfig (.str message) (.str d.path.text) (contextName d context))

theorem FilePair.credentials_unpaired {certificate key : List UInt8}
    (h : FilePair w user base certificate key) (unpaired : ¬ (certificate = [] ↔ key = [])) :
    Kubeconfig.credentials w user name base =
      Traced.fail (Failure.kubeconfig unpairedMessage) := by
  have truthy (bytes : List UInt8) (filled : bytes ≠ []) :
      (Value.str (Text.Base64.ofBytes bytes)).truthy = true := truthy_ofBytes_iff.mpr filled
  have falsy : (Value.str (Text.Base64.ofBytes [])).truthy = false := rfl
  rw [h.credentials]
  unfold certifiedOr
  by_cases empty : certificate = []
  · have filled : key ≠ [] := fun empty' => unpaired ⟨fun _ => empty', fun _ => empty⟩
    rw [empty, falsy, truthy key filled]
    rfl
  · have empty' : key = [] := Classical.byContradiction fun filled =>
      unpaired ⟨fun none => absurd none empty, fun none => absurd none filled⟩
    rw [empty', falsy, truthy certificate empty]
    rfl

theorem FilePair.credentials_empty (h : FilePair w user base [] []) :
    Kubeconfig.credentials w user name base = basicOrPlugin w user name base := by
  rw [h.credentials]
  rfl

theorem resolve_of_refusal {message : String} (h : s.Prepared w d context)
    (written : Failure.textOf (contextName d context) = .ok shown)
    (failed : credentials w s.user (contextName d context) d.path.parent =
      Traced.fail (Failure.kubeconfig message)) :
    (resolve w d context userAgent).result = .error (refusal d context message) := by
  rw [resolve_of_failure h (congrArg Traced.result failed)]
  unfold situate refusal
  dsimp only [invalidValues, Failure.kubeconfig]
  rw [written]
  rfl

/-- What a resolution comes to that gets below the certificates: to a user name with a password, to
the plugin, or to neither. -/
structure GoesOn (w : World) (d : Document) (context : Value) (user : Entries)
    (outcome : Traced Profile) : Prop where
  basic : Configures w user d.path.parent .basic → ∀ p, outcome.result = .ok p →
    basicHeader (Value.field user "username") (Value.field user "password") = .ok p.credentials
  plugin : ¬ Configures w user d.path.parent .basic → Configures w user d.path.parent .plugin →
    outcome.calls = [{ context := contextName d context, folder := d.path.parent.text }]
  none : ¬ Configures w user d.path.parent .basic → ¬ Configures w user d.path.parent .plugin →
    outcome.result = .error (refusal d context "User has no supported credentials")

theorem goesOn (h : s.Prepared w d context)
    (written : Failure.textOf (contextName d context) = .ok shown)
    (files : FilePair w s.user d.path.parent [] []) :
    GoesOn w d context s.user (resolve w d context userAgent) := by
  have found : credentials w s.user (contextName d context) d.path.parent =
      basicOrPlugin w s.user (contextName d context) d.path.parent := files.credentials_empty
  refine ⟨fun basic p resolved => ?_, fun basic plugin => ?_, fun basic plugin => ?_⟩
  · obtain ⟨_, ended⟩ := resolved_credentials h.selected_user resolved
    rw [found, basicOrPlugin_of_basic basic] at ended
    obtain ⟨made, attempted, ended⟩ := Traced.result_bind_ok.mp ended
    rw [← (Prod.mk.inj (Except.ok.inj ended)).1]
    exact attempted
  · rw [calls_of_prepared h, found, basicOrPlugin_of_plugin basic plugin]
    refine (Traced.calls_bind_silent fun _ => rfl).trans ?_
    exact pluginCredentials_calls w (contextName d context) d.path.parent
  · rw [basicOrPlugin_of_none basic plugin] at found
    exact resolve_of_refusal h written found

/-- What credential files without contents come to. -/
theorem blank_credential_files (h : s.Prepared w d context)
    (written : Failure.textOf (contextName d context) = .ok shown) (userAgent : Value) :
    (∀ bytes text, BlankToken w s.user d.path.parent bytes text →
      (∀ p, (resolve w d context userAgent).result = .ok p → p.credentials = .header "Bearer ") ∧
      ∀ p, profile (Value.field s.cluster "server") (.header "Bearer ") s.trust userAgent s.user
          s.groups = .ok p →
        ∃ q, (resolve w d context userAgent).result = .ok q) ∧
    ∀ certificate key, FilePair w s.user d.path.parent certificate key →
      (¬ (certificate = [] ↔ key = []) →
        (resolve w d context userAgent).result = .error (refusal d context unpairedMessage) ∧
        (resolve w d context userAgent).calls = []) ∧
      (certificate = [] → key = [] →
        GoesOn w d context s.user (resolve w d context userAgent)) := by
  refine ⟨fun bytes text blank => ⟨fun p resolved => ?_, fun p checked => ?_⟩,
    fun certificate key files => ⟨fun unpaired => ⟨?_, ?_⟩, ?_⟩⟩
  · obtain ⟨_, ended⟩ := resolved_credentials h.selected_user resolved
    rw [blank.credentials] at ended
    exact (Prod.mk.inj (Except.ok.inj ended)).1.symm
  · obtain ⟨q, resolved, _⟩ :=
      resolve_of_success h written (congrArg Traced.result blank.credentials) checked
    exact ⟨q, resolved⟩
  · exact resolve_of_refusal h written (files.credentials_unpaired unpaired)
  · rw [calls_of_prepared h, files.credentials_unpaired unpaired]
    rfl
  · rintro rfl rfl
    exact goesOn h written files

/-- Surroundings with a token file that has only a line end, and an empty certificate and key. -/
def blankWorld : World :=
  { directory := ["srv"]
    files := [(["srv", "token"], .bytes [10]), (["srv", "crt"], .bytes []),
      (["etc", "pki", "key"], .bytes [])] }

def blankTokenUser : Entries := [(.str "tokenFile", .str "token")]

/-- A user with empty files, and a user name with its password. -/
def emptyPairUser : Entries := keyUser ++ [(.str "username", .str "a"), (.str "password", .str "b")]

def headerProfile (value : String) : Profile :=
  { endpoint := "https://h", credentials := .header value, trust := none, userAgent := "ua",
    verify := true, impersonate := .null, groups := [] }

theorem blankTokenUser_blank : BlankToken blankWorld blankTokenUser
    (Document.ofUser blankTokenUser).path.parent [10] "\n" := by
  have named : Value.field blankTokenUser "tokenFile" = .str "token" := by cbv
  refine ⟨by cbv, ?_, by cbv, by cbv⟩
  rw [named]
  exact reads_of_named (p := ⟨"", ["token"]⟩) (by decide) (by cbv) (by cbv)

theorem emptyPairUser_empty :
    FilePair blankWorld emptyPairUser (Document.ofUser emptyPairUser).path.parent [] [] := by
  have certificate : Value.field emptyPairUser "client-certificate" = .str "crt" := by cbv
  have key : Value.field emptyPairUser "client-key" = .str "/etc/pki/key" := by cbv
  refine ⟨by cbv, by cbv, by cbv, by cbv, ?_, ?_⟩
  · rw [certificate]
    exact reads_of_named (p := ⟨"", ["crt"]⟩) (by decide) (by cbv) (by cbv)
  · rw [key]
    exact reads_of_named (p := ⟨"/", ["etc", "pki", "key"]⟩) (by decide) (by cbv) (by cbv)

/-- The steps up to the credentials of a user. -/
def userSteps (user : Entries) : Steps :=
  { selected := [(.str "cluster", .str "k"), (.str "user", .str "u")]
    clusterName := .str "k"
    cluster := [(.str "server", .str "https://h")]
    userName := .str "u"
    user := user
    groups := []
    trust := none
    credentials := .header ""
    method := .token
    checked := headerProfile "" }

theorem blank_files_go_on :
    (∃ p, (resolve blankWorld (Document.ofUser blankTokenUser) .null (.str "ua")).result = .ok p ∧
      p.credentials = .header "Bearer ") ∧
    ∃ p, (resolve blankWorld (Document.ofUser emptyPairUser) .null (.str "ua")).result = .ok p ∧
      basicHeader (.str "a") (.str "b") = .ok p.credentials := by
  have token :
      (userSteps blankTokenUser).Prepared blankWorld (Document.ofUser blankTokenUser) .null :=
    ⟨by cbv, by cbv, by cbv, by cbv, by cbv, by cbv, by cbv⟩
  have pair :
      (userSteps emptyPairUser).Prepared blankWorld (Document.ofUser emptyPairUser) .null :=
    ⟨by cbv, by cbv, by cbv, by cbv, by cbv, by cbv, by cbv⟩
  have shown (user : Entries) :
      Failure.textOf (contextName (Document.ofUser user) .null) = .ok "c" := by cbv
  obtain ⟨tokens, _⟩ := blank_credential_files token (shown _) (.str "ua")
  obtain ⟨header, accepted⟩ := tokens _ _ blankTokenUser_blank
  obtain ⟨p, resolved⟩ := accepted (headerProfile "Bearer ") (by cbv)
  refine ⟨⟨p, resolved, header p resolved⟩, headerProfile "Basic YTpi", by cbv, ?_⟩
  obtain ⟨_, pairs⟩ := blank_credential_files pair (shown _) (.str "ua")
  obtain ⟨_, goes⟩ := pairs _ _ emptyPairUser_empty
  have basic := (goes rfl rfl).basic ⟨by cbv, by cbv⟩ (headerProfile "Basic YTpi") (by cbv)
  have userName : Value.field emptyPairUser "username" = .str "a" := by cbv
  have password : Value.field emptyPairUser "password" = .str "b" := by cbv
  change basicHeader (Value.field emptyPairUser "username") (Value.field emptyPairUser "password") =
    _ at basic
  rw [userName, password] at basic
  exact basic

theorem blank_files_accepted :
    BlankToken blankWorld blankTokenUser (Document.ofUser blankTokenUser).path.parent [10] "\n" ∧
      (resolve blankWorld (Document.ofUser blankTokenUser) .null (.str "ua")).result =
        .ok (headerProfile "Bearer ") ∧
      FilePair blankWorld emptyPairUser (Document.ofUser emptyPairUser).path.parent [] [] ∧
      (resolve blankWorld (Document.ofUser emptyPairUser) .null (.str "ua")).result =
        .ok (headerProfile "Basic YTpi") :=
  ⟨blankTokenUser_blank, by cbv, emptyPairUser_empty, by cbv⟩

end ClusterAccess.Kubeconfig
