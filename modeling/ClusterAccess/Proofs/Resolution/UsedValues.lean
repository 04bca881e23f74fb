import ClusterAccess.Proofs.Resolution.BlankFiles

/-!
# The values that a profile is made of

A resolution reads some values only if they are texts, some also if they are bytes that spell one,
and writes out a token or a user name and its password whatever they are. So the values that a
profile is made of are texts unless a value is written out that is none, or spelled by bytes
(`used_values`).
-/

namespace ClusterAccess

def Value.IsText (v : Value) : Prop := ∃ s, v = .str s

namespace Kubeconfig

inductive Reading
  | strict
  | lenient
  | written
  deriving DecidableEq

/-- What a reading takes. -/
def Reading.Takes : Reading → Value → Prop
  | .strict, v => v.IsText
  | .lenient, v => v.IsText ∨ ∃ bytes s, v = .bytes bytes ∧ Text.Utf8.toString? bytes = some s
  | .written, v => v.truthy = true ∧ v.isShowable = true

/-- The values that a profile is made of, and how they are read: those of the cluster, those of the
method by which the user authenticates, and those that name whom the user acts for. -/
inductive Used (cluster user : Entries) (groups : List Value) : AuthMethod → Reading → Value → Prop
  | server (m : AuthMethod) : Used cluster user groups m .lenient (Value.field cluster "server")
  | inlineAuthorities (m : AuthMethod) :
    (Value.field cluster "certificate-authority-data").truthy = true →
    Used cluster user groups m .strict (Value.field cluster "certificate-authority-data")
  | authorities (m : AuthMethod) :
    (Value.field cluster "certificate-authority-data").truthy = false →
    (Value.field cluster "certificate-authority").truthy = true →
    Used cluster user groups m .strict (Value.field cluster "certificate-authority")
  | user (m : AuthMethod) : Value.field user "as" ≠ .null →
    Used cluster user groups m .lenient (Value.field user "as")
  | group (m : AuthMethod) {g : Value} : g ∈ groups → Used cluster user groups m .lenient g
  | token : Used cluster user groups .token .written (Value.field user "token")
  | tokenFile : Used cluster user groups .tokenFile .strict (Value.field user "tokenFile")
  | inlineMaterial {kind : String} : kind ∈ materials →
    (Value.field user (kind ++ "-data")).truthy = true →
    Used cluster user groups .clientCertificate .lenient (Value.field user (kind ++ "-data"))
  | material {kind : String} : kind ∈ materials →
    (Value.field user (kind ++ "-data")).truthy = false →
    Used cluster user groups .clientCertificate .strict (Value.field user kind)
  | userName : Used cluster user groups .basic .written (Value.field user "username")
  | password : Used cluster user groups .basic .written (Value.field user "password")

/-- A profile is made of a value that is no text: a token, a user name or a password is written out,
or bytes stand where a text is spelled. -/
inductive Loose (cluster user : Entries) (groups : List Value) (m : AuthMethod) : Prop
  | written {v : Value} : Used cluster user groups m .written v → ¬ v.IsText →
    Loose cluster user groups m
  | spelled {bytes : List UInt8} : Used cluster user groups m .lenient (.bytes bytes) →
    Loose cluster user groups m

variable {w : World} {d : Document} {cluster user : Entries} {groups : List Value} {base : FilePath}
  {m : AuthMethod} {context name userAgent v : Value} {creds : Credentials} {p : Profile}

/-! ### Readings -/

theorem takes_of_spelled {s : String} (spelled : Lax.text v = .ok s) : Reading.lenient.Takes v := by
  cases v with
  | str t => exact .inl ⟨t, rfl⟩
  | bytes bs =>
    dsimp only [Lax.text] at spelled
    cases written : Text.Utf8.toString? bs with
    | some text => exact .inr ⟨bs, text, rfl, written⟩
    | none =>
      rw [written] at spelled
      cases spelled
  | _ => cases spelled

theorem isText_of_named {q : FilePath} (named : w.namedPath v = .ok q) : v.IsText := by
  unfold World.namedPath at named
  obtain ⟨p, read, _⟩ := result_bind_ok.mp named
  unfold FilePath.ofValue at read
  split at read
  · exact ⟨_, rfl⟩
  · cases read

theorem isText_of_referenced {q : FilePath} (referenced : referencedPath w base v = .ok q) :
    v.IsText := by
  obtain ⟨_, named, _⟩ := result_bind_ok.mp referenced
  exact isText_of_named named

/-! ### Values that are used -/

theorem authorities_takes {trust : Option TrustSource}
    (trusted : authorities w cluster base = .ok trust) :
    ((Value.field cluster "certificate-authority-data").truthy = true →
      (Value.field cluster "certificate-authority-data").IsText) ∧
    ((Value.field cluster "certificate-authority-data").truthy = false →
      (Value.field cluster "certificate-authority").truthy = true →
      (Value.field cluster "certificate-authority").IsText) := by
  unfold authorities at trusted
  dsimp only at trusted
  refine ⟨fun given => ?_, fun absent given => ?_⟩
  · rw [if_pos given] at trusted
    split at trusted
    · rename_i s inline
      exact ⟨s, inline⟩
    · cases trusted
  · rw [absent, if_neg Bool.false_ne_true, if_pos given] at trusted
    obtain ⟨_, named, _⟩ := result_bind_ok.mp trusted
    exact isText_of_referenced named

theorem material_takes {kind : String} (read : material w user kind base = .ok v)
    (given : v.truthy = true) {s : String} (spelled : Lax.text v = .ok s) :
    ((Value.field user (kind ++ "-data")).truthy = true →
      Lax.text (Value.field user (kind ++ "-data")) = .ok s) ∧
    ((Value.field user (kind ++ "-data")).truthy = false → (Value.field user kind).IsText) := by
  rw [material_eq] at read
  refine ⟨fun inline => ?_, fun absent => ?_⟩
  · rw [if_pos inline] at read
    rw [Except.ok.inj read]
    exact spelled
  · rw [absent, if_neg Bool.false_ne_true] at read
    split at read
    · obtain ⟨_, named, _⟩ := result_bind_ok.mp read
      exact isText_of_referenced named
    · rw [← Except.ok.inj read] at given
      cases given

theorem pair_takes (attempted : (attempt w user name base .clientCertificate).result = .ok creds)
    {kind : String} (member : kind ∈ materials) :
    ∃ v s, material w user kind base = .ok v ∧ v.truthy = true ∧ Lax.text v = .ok s := by
  obtain ⟨certificate, read, attempted⟩ := result_bind_ok.mp attempted
  obtain ⟨key, read', paired⟩ := result_bind_ok.mp attempted
  unfold pairMaterial at paired
  split at paired
  · rename_i both
    rw [Bool.and_eq_true] at both
    obtain ⟨first, second, _, certified, keyed⟩ := checkMaterial_ok paired
    simp only [materials, List.mem_cons, List.not_mem_nil, or_false] at member
    rcases member with rfl | rfl
    · exact ⟨certificate, first, read, both.1, certified⟩
    · exact ⟨key, second, read', both.2, keyed⟩
  · cases paired

theorem basic_takes {password : Value} (made : basicHeader v password = .ok creds) :
    v.isShowable = true ∧ password.isShowable = true := by
  obtain ⟨_, written, made⟩ := result_bind_ok.mp made
  obtain ⟨_, written', _⟩ := result_bind_ok.mp made
  exact ⟨(textOf_ok.mp written).1, (textOf_ok.mp written').1⟩

/-- Every value that a profile is made of is one that its reading takes. -/
theorem Steps.Taken.takes {s : Steps} (h : s.Taken w d name userAgent) {reading : Reading}
    (used : Used s.cluster s.user s.groups s.method reading v) : reading.Takes v := by
  obtain ⟨server, _, _, _, _, acting, groups⟩ := profile_ok.mp h.checked
  obtain ⟨inline, file⟩ := authorities_takes h.trust
  obtain ⟨decides, attempted⟩ := decides_of_credentials h.credentials
  -- The method is fixed by the credentials, so `Used` can be taken apart only once it is general.
  generalize s.method = method at used decides attempted
  cases used with
  | server => exact takes_of_spelled server
  | inlineAuthorities _ given => exact inline given
  | authorities _ absent given => exact file absent given
  | user _ present =>
    obtain ⟨_, spelled, _⟩ := Check.map_ok.mp acting
    unfold Lax.optionalText at spelled
    split at spelled
    · rename_i null
      exact absurd null present
    · obtain ⟨_, spelled, _⟩ := Check.map_ok.mp spelled
      exact takes_of_spelled spelled
  | group _ member =>
    obtain ⟨_, accepted⟩ := Check.members_ok groups _ member
    obtain ⟨_, spelled, _⟩ := Check.map_ok.mp accepted
    exact takes_of_spelled spelled
  | token =>
    obtain ⟨_, written, _⟩ := result_map_ok.mp attempted
    exact ⟨decides.configured, (textOf_ok.mp written).1⟩
  | tokenFile =>
    obtain ⟨_, named, _⟩ := result_bind_ok.mp attempted
    exact isText_of_referenced named
  | inlineMaterial member given =>
    obtain ⟨_, _, read, truthy, spelled⟩ := pair_takes attempted member
    exact takes_of_spelled ((material_takes read truthy spelled).1 given)
  | material member absent =>
    obtain ⟨_, _, read, truthy, spelled⟩ := pair_takes attempted member
    exact (material_takes read truthy spelled).2 absent
  | userName => exact ⟨decides.configured.1, (basic_takes attempted).1⟩
  | password => exact ⟨decides.configured.2, (basic_takes attempted).2⟩

/-- The values are texts exactly if none of them is loose. -/
theorem Steps.Taken.loose_iff {s : Steps} (h : s.Taken w d name userAgent) :
    (∀ reading v, Used s.cluster s.user s.groups s.method reading v → v.IsText) ↔
      ¬ Loose s.cluster s.user s.groups s.method := by
  constructor
  · intro texts loose
    cases loose with
    | written used other => exact other (texts _ _ used)
    | spelled used =>
      obtain ⟨_, same⟩ := texts _ _ used
      cases same
  · intro tight reading v used
    have takes := h.takes used
    cases reading with
    | strict => exact takes
    | lenient =>
      rcases takes with text | ⟨bytes, _, rfl, _⟩
      · exact text
      · exact absurd (.spelled used) tight
    | written => exact Classical.byContradiction fun other => tight (.written used other)

/-! ### Values that are written out -/

/-- The credentials that a token, or a user name and its password, are written out as. -/
inductive WrittenOut (user : Entries) : AuthMethod → Credentials → Prop
  | token : (Value.field user "token").isShowable = true →
    WrittenOut user .token (.header ("Bearer " ++ (Value.field user "token").display))
  | basic {bytes : List UInt8} : (Value.field user "username").isShowable = true →
    (Value.field user "password").isShowable = true →
    Failure.bytesOf ((Value.field user "username").display ++ ":" ++
      (Value.field user "password").display) = .ok bytes →
    WrittenOut user .basic (.header ("Basic " ++ Text.Base64.ofBytes bytes))

theorem WrittenOut.attempt (h : WrittenOut user m creds) :
    (attempt w user name base m).result = .ok creds := by
  cases h with
  | token shows =>
    have written := textOf_ok.mpr ⟨shows, rfl⟩
    exact result_map_ok.mpr ⟨_, written, rfl⟩
  | basic shows shows' encoded =>
    refine result_bind_ok.mpr ⟨_, textOf_ok.mpr ⟨shows, rfl⟩, ?_⟩
    refine result_bind_ok.mpr ⟨_, textOf_ok.mpr ⟨shows', rfl⟩, ?_⟩
    exact result_bind_ok.mpr ⟨_, encoded, rfl⟩

theorem WrittenOut.credentials (decides : Decides w user base m) (h : WrittenOut user m creds) :
    (credentials w user name base).result = .ok (creds, m) := by
  rw [credentials_of_decides decides]
  exact Traced.result_bind_ok.mpr ⟨creds, h.attempt, rfl⟩

/-- The values that a profile is made of are texts unless it is made of loose ones, and a token, a
user name or a password makes credentials whatever its type. -/
theorem used_values (w : World) (d : Document) (context userAgent : Value) :
    (∀ p, (resolve w d context userAgent).result = .ok p →
      ∃ s : Steps, s.Complete w d context userAgent ∧ p = s.profile ∧
        (∀ reading v, Used s.cluster s.user s.groups s.method reading v → reading.Takes v) ∧
        ((∀ reading v, Used s.cluster s.user s.groups s.method reading v → v.IsText) ↔
          ¬ Loose s.cluster s.user s.groups s.method)) ∧
    ∀ (s : Steps) shown m creds checked, s.Prepared w d context →
      Failure.textOf (contextName d context) = .ok shown →
      Decides w s.user d.path.parent m → WrittenOut s.user m creds →
      profile (Value.field s.cluster "server") creds s.trust userAgent s.user s.groups =
        .ok checked →
      ∃ q, (resolve w d context userAgent).result = .ok q ∧ q.credentials = creds := by
  constructor
  · intro p resolved
    obtain ⟨s, _, complete, rfl, _⟩ := resolve_ok resolved
    exact ⟨s, complete, rfl, fun _ _ => complete.taken.takes, complete.taken.loose_iff⟩
  · intro s shown m creds checked prepared shows decides out accepted
    exact resolve_of_success prepared shows (out.credentials decides) accepted

/-- A user whose token is an integer. -/
def integerTokenUser : Entries := [(.str "token", .int 123)]

theorem integerTokenUser_token : Value.field integerTokenUser "token" = .int 123 := by cbv

theorem integerTokenUser_prepared :
    (userSteps integerTokenUser).Prepared {} (.ofUser integerTokenUser) .null :=
  ⟨by cbv, by cbv, by cbv, by cbv, by cbv, by cbv, by cbv⟩

theorem integerTokenUser_selected :
    Failure.textOf (contextName (.ofUser integerTokenUser) .null) = .ok "c" := by
  cbv

theorem integerTokenUser_decides (base : FilePath) : Decides {} integerTokenUser base .token := by
  refine ⟨?_, fun higher above => absurd above (by cases higher <;> decide)⟩
  change (Value.field integerTokenUser "token").truthy = true
  rw [integerTokenUser_token]
  rfl

theorem integerTokenUser_writtenOut :
    WrittenOut integerTokenUser .token (.header "Bearer 123") := by
  have shows : (Value.int 123).isShowable = true := by decide +kernel
  have display : (Value.int 123).display = "123" := by decide +kernel
  have out : WrittenOut integerTokenUser .token
      (.header ("Bearer " ++ (Value.field integerTokenUser "token").display)) :=
    .token (by rw [integerTokenUser_token]; exact shows)
  rw [integerTokenUser_token, display] at out
  exact out

theorem integerTokenUser_checked :
    let s := userSteps integerTokenUser
    profile (Value.field s.cluster "server") (.header "Bearer 123") s.trust (.str "ua") s.user
      s.groups = .ok (headerProfile "Bearer 123") := by
  cbv

theorem integer_token_written_out :
    ∃ q, (resolve {} (.ofUser integerTokenUser) .null (.str "ua")).result = .ok q ∧
      q.credentials = .header "Bearer 123" ∧
      ∃ s : Steps, s.Complete {} (.ofUser integerTokenUser) .null (.str "ua") ∧
        q = s.profile := by
  obtain ⟨made, accepts⟩ := used_values {} (.ofUser integerTokenUser) .null (.str "ua")
  obtain ⟨q, resolved, credentials⟩ :=
    accepts _ _ _ _ _ integerTokenUser_prepared integerTokenUser_selected
      (integerTokenUser_decides _) integerTokenUser_writtenOut integerTokenUser_checked
  obtain ⟨s, complete, same, _⟩ := made q resolved
  exact ⟨q, resolved, credentials, s, complete, same⟩

theorem integer_token_accepted :
    ∃ p, (resolve {} (.ofUser integerTokenUser) .null (.str "ua")).result = .ok p ∧
      p.credentials = .header "Bearer 123" ∧
      selected? (.ofUser integerTokenUser) .null "users" "user" = some integerTokenUser ∧
      Value.field integerTokenUser "token" = .int 123 ∧ ¬ (Value.int 123).IsText := by
  have found : (credentials {} integerTokenUser (contextName (.ofUser integerTokenUser) .null)
      (Document.ofUser integerTokenUser).path.parent).result =
        .ok (.header "Bearer 123", .token) :=
    integerTokenUser_writtenOut.credentials (integerTokenUser_decides _)
  obtain ⟨p, resolved, credentials⟩ :=
    resolve_of_success integerTokenUser_prepared integerTokenUser_selected found
      integerTokenUser_checked
  exact ⟨p, resolved, credentials, integerTokenUser_prepared.selected_user,
    integerTokenUser_token, by rintro ⟨_, same⟩; cases same⟩

end Kubeconfig
end ClusterAccess
