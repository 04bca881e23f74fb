import ClusterAccess.Proofs.Resolution.Agreement
import ClusterAccess.Proofs.Text.Surrogates
import ClusterAccess.Proofs.World

/-!
# Secrets stay in the credentials

A second input differs from a first one in a secret of the selected user: a value of the user, the
contents of a file that the user names, or the header of the plugin. Both resolutions then log the
same and end alike, with the same failure, or with profiles that differ in the secret part of their
credentials alone (`secret_stays_inside`).
-/

namespace ClusterAccess.Kubeconfig

/-- A text that is not empty, and has bytes. -/
structure IsSecret (s : String) : Prop where
  given : s ≠ ""
  encodable : Text.Utf8.surrogates? (fun _ => true) s.toList = none

/-- The fields of a user whose values are secrets. -/
def secretFields : List String := ["token", "password", "client-key-data"]

/-- A value that is given names a path that leads to a file. -/
def NamesFile (w : World) (base : FilePath) (v : Value) (parts : List String) : Prop :=
  v.truthy = true ∧ ∃ p, referencedPath w base v = .ok p ∧ w.Reaches p parts

def IsText (bytes : List UInt8) : Prop :=
  ∃ text, Text.Utf8.toString? bytes = some text

/-- Other surroundings and another user, which differ from the first ones in one secret. A file for
a key holds nothing but the key if it is not the one of the certificate, nor the one of a token. -/
inductive DiffersInSecret (w : World) (user : Entries) (base : FilePath) : World → Entries → Prop
  | value {user' : Entries} {field a b : String} : field ∈ secretFields →
    (∀ key, key ≠ field → Value.field? user' key = Value.field? user key) →
    Value.field user field = .str a → Value.field user' field = .str b →
    IsSecret a → IsSecret b → DiffersInSecret w user base w user'
  | tokenFile {name : String} {parts : List String} {a b : List UInt8} :
    Value.field user "tokenFile" = .str name → NamesFile w base (.str name) parts →
    w.node? parts = some (.file (.bytes a)) → IsText a → IsText b →
    DiffersInSecret w user base (w.withContents parts b) user
  | keyFile {name : String} {parts : List String} {a b : List UInt8} :
    Value.field user "client-key" = .str name → NamesFile w base (.str name) parts →
    w.node? parts = some (.file (.bytes a)) → a ≠ [] → b ≠ [] →
    ¬ NamesFile w base (Value.field user "client-certificate") parts →
    ((Value.field user "token").truthy = false →
      ¬ NamesFile w base (Value.field user "tokenFile") parts) →
    DiffersInSecret w user base (w.withContents parts b) user
  | plugin {a b : String} : w.plugin = .header a → a ≠ "" → b ≠ "" →
    DiffersInSecret w user base (w.withPlugin (.header b)) user

variable {w w' : World} {user user' : Entries} {base : FilePath} {name : Value} {a b : String}

theorem truthy_of_secret (h : IsSecret a) : (Value.str a).truthy = true := by
  simpa [Value.truthy] using h.given

theorem bearer_withoutSecret (token : String) :
    (Credentials.bearer token).withoutSecret = .header "" := rfl

theorem textOf_str (s : String) : Failure.textOf (.str s) = .ok s := rfl

theorem field_of_field? {key : String} (same : Value.field? user' key = Value.field? user key) :
    Value.field user' key = Value.field user key := by
  unfold Value.field
  rw [same]

/-! ### The steps that see the secret -/

theorem bytesOf_agrees (start : String) (first : IsSecret a) (second : IsSecret b) :
    Agree (fun _ _ => True) (Failure.bytesOf (start ++ a)) (Failure.bytesOf (start ++ b)) := by
  -- A failure tells the place of a surrogate, which lies in front of the secret.
  have same : Text.Utf8.surrogates? (fun _ => true) (start ++ a).toList =
      Text.Utf8.surrogates? (fun _ => true) (start ++ b).toList := by
    rw [String.toList_append, String.toList_append,
      Text.Utf8.surrogates?_append first.encodable, Text.Utf8.surrogates?_append second.encodable]
  unfold Failure.bytesOf Failure.checkSurrogates
  rw [same]
  cases Text.Utf8.surrogates? (fun _ => true) (start ++ b).toList with
  | none => exact .ok trivial
  | some found => exact .error _

theorem basicHeader_agrees (user : Value) (first : IsSecret a) (second : IsSecret b) :
    Agree (fun c c' => c.withoutSecret = c'.withoutSecret)
      (basicHeader user (.str a)) (basicHeader user (.str b)) := by
  unfold basicHeader
  refine .bind (R := Eq) (.refl (fun _ => rfl) _) ?_
  rintro shown _ rfl
  rw [textOf_str, textOf_str]
  refine .bind (R := fun x y => x = a ∧ y = b) (.ok ⟨rfl, rfl⟩) ?_
  rintro _ _ ⟨rfl, rfl⟩
  refine .bind (bytesOf_agrees (shown ++ ":") first second) ?_
  exact fun _ _ _ => .ok rfl

/-- A key that is a text is taken as it is, so only the certificate is checked. -/
theorem checkMaterial_text (certificate : Value) (key : String) :
    checkMaterial certificate (.str key) =
      match Check.within (.field "certificate_base64") (Lax.text certificate) with
      | .ok text => .ok (.pem text key)
      | .error issues => .error (.invalid issues) := by
  have fields : Credentials.checkPem [(.str "certificate_base64", certificate),
      (.str "private_key_base64", .str key)] =
      Check.also ((Check.within (.field "certificate_base64") (Lax.text certificate)).map
        Credentials.pem) (.ok key) := by
    simp [Credentials.checkPem, Lax.required, Value.field?, Value.lookup?, Value.same, Lax.text,
      Check.within]
  unfold checkMaterial
  dsimp only
  rw [fields]
  cases Check.within (.field "certificate_base64") (Lax.text certificate) <;> rfl

/-- A certificate is refused whatever its key is. -/
theorem checkMaterial_agrees (certificate : Value) (a b : String) :
    Agree (fun c c' => c.withoutSecret = c'.withoutSecret)
      (checkMaterial certificate (.str a)) (checkMaterial certificate (.str b)) := by
  rw [checkMaterial_text, checkMaterial_text]
  cases Check.within (.field "certificate_base64") (Lax.text certificate) with
  | ok text => exact .ok rfl
  | error issues => exact .error _

theorem pluginCredentials_agrees (plugged : w.plugin = .header a) (plugged' : w'.plugin = .header b)
    (given : a ≠ "") (given' : b ≠ "") :
    Traced.Agrees (fun c c' => c.withoutSecret = c'.withoutSecret)
      (pluginCredentials w name base) (pluginCredentials w' name base) := by
  unfold pluginCredentials
  rw [plugged, plugged']
  refine .bind (R := Eq) (.refl (fun _ => rfl) _) ?_
  rintro _ _ rfl
  dsimp only
  rw [if_neg given, if_neg given']
  exact .pure rfl

/-- A key that is given, but differs. -/
theorem certifiedOr_agrees (certificate : Value) (first : a ≠ "") (second : b ≠ "") :
    Traced.Agrees SameButSecret (certifiedOr w user name base certificate (.str a))
      (certifiedOr w' user' name base certificate (.str b)) := by
  have given (s : String) (h : s ≠ "") : (Value.str s).truthy = true := by
    simpa [Value.truthy] using h
  unfold certifiedOr
  rw [given a first, given b second]
  cases certificate.truthy with
  | false => exact ⟨.error _, rfl, rfl⟩
  | true =>
    refine .bind (.lift (checkMaterial_agrees certificate a b)) ?_
    exact fun c c' same => .pure ⟨same, rfl⟩

/-! ### A value of the user -/

theorem material_congr {kind : String}
    (data : Value.field user' (kind ++ "-data") = Value.field user (kind ++ "-data"))
    (file : Value.field user' kind = Value.field user kind) :
    material w user' kind base = material w user kind base := by
  unfold material
  simp only [data, file]

theorem material_of_data {kind s : String} (data : Value.field user (kind ++ "-data") = .str s)
    (given : s ≠ "") : material w user kind base = .ok (.str s) := by
  have truthy : (Value.str s).truthy = true := by simpa [Value.truthy] using given
  unfold material
  dsimp only
  rw [data, if_pos truthy]

theorem credentials_of_token {s : String} (token : Value.field user "token" = .str s)
    (secret : IsSecret s) : credentials w user name base = pure (.bearer s, .token) := by
  rw [credentials_eq, token, if_pos (truthy_of_secret secret), textOf_str]
  rfl

/-- What comes first decides alike for users who differ in neither of its fields. -/
theorem credentials_agree_below
    (token : Value.field user' "token" = Value.field user "token")
    (tokenFile : Value.field user' "tokenFile" = Value.field user "tokenFile")
    (reads : (Value.field user "token").truthy = false →
      (Value.field user "tokenFile").truthy = true →
      tokenFromFile w' base (Value.field user "tokenFile") =
        tokenFromFile w base (Value.field user "tokenFile"))
    (certificate : material w' user' "client-certificate" base =
      material w user "client-certificate" base)
    (rest : ∀ c, Traced.Agrees SameButSecret
      (Traced.lift (material w user "client-key" base) >>= certifiedOr w user name base c)
      (Traced.lift (material w' user' "client-key" base) >>= certifiedOr w' user' name base c)) :
    Traced.Agrees SameButSecret (credentials w user name base)
      (credentials w' user' name base) := by
  rw [credentials_eq, credentials_eq, token, tokenFile, certificate]
  split
  · exact .refl (fun _ => ⟨rfl, rfl⟩) _
  · rename_i absent
    split
    · rename_i given
      rw [reads (by simpa using absent) given]
      exact .refl (fun _ => ⟨rfl, rfl⟩) _
    · refine .bind (R := Eq) (.refl (fun _ => rfl) _) ?_
      rintro c _ rfl
      exact rest c

theorem basicOrPlugin_agrees (first : IsSecret a) (second : IsSecret b)
    (others : ∀ key, key ≠ "password" → Value.field? user' key = Value.field? user key)
    (password : Value.field user "password" = .str a)
    (password' : Value.field user' "password" = .str b) :
    Traced.Agrees SameButSecret (basicOrPlugin w user name base)
      (basicOrPlugin w user' name base) := by
  unfold basicOrPlugin
  rw [field_of_field? (others "username" (by decide)), others "exec" (by decide),
    others "auth-provider" (by decide), password, password']
  dsimp only
  rw [truthy_of_secret first, truthy_of_secret second]
  split
  · refine .bind (.lift (basicHeader_agrees _ first second)) ?_
    exact fun c c' same => .pure ⟨same, rfl⟩
  · exact .refl (fun _ => ⟨rfl, rfl⟩) _

theorem credentials_agree_of_value {field : String} (member : field ∈ secretFields)
    (others : ∀ key, key ≠ field → Value.field? user' key = Value.field? user key)
    (value : Value.field user field = .str a) (value' : Value.field user' field = .str b)
    (first : IsSecret a) (second : IsSecret b) :
    Traced.Agrees SameButSecret (credentials w user name base)
      (credentials w user' name base) := by
  have same (key : String) (other : key ≠ field) : Value.field user' key = Value.field user key :=
    field_of_field? (others key other)
  simp only [secretFields, List.mem_cons, List.not_mem_nil, or_false] at member
  rcases member with rfl | rfl | rfl
  -- A token decides at once; a password and a key are looked at after what outranks them.
  · rw [credentials_of_token value first, credentials_of_token value' second]
    exact .pure ⟨rfl, rfl⟩
  · refine credentials_agree_below (same _ (by decide)) (same _ (by decide))
      (fun _ _ => rfl)
      (material_congr (same _ (by decide)) (same _ (by decide))) fun c => ?_
    rw [material_congr (same _ (by decide)) (same _ (by decide))]
    refine .bind (R := Eq) (.refl (fun _ => rfl) _) ?_
    rintro key _ rfl
    unfold certifiedOr
    split
    · exact .refl (fun _ => ⟨rfl, rfl⟩) _
    · split
      · exact .refl (fun _ => ⟨rfl, rfl⟩) _
      · exact basicOrPlugin_agrees first second others value value'
  · refine credentials_agree_below (same _ (by decide)) (same _ (by decide))
      (fun _ _ => rfl)
      (material_congr (same _ (by decide)) (same _ (by decide))) fun c => ?_
    rw [material_of_data value first.given, material_of_data value' second.given]
    exact certifiedOr_agrees c first.given second.given

/-! ### The contents of a file -/

section Files

variable {parts : List String} {old new : List UInt8} {v : Value}

theorem sameHomes_withContents (w : World) (parts : List String) (bs : List UInt8) :
    SameHomes w (w.withContents parts bs) := ⟨rfl, rfl, rfl⟩

theorem readReferenced_withContents (there : w.node? parts = some (.file (.bytes old)))
    (new : List UInt8) (p : FilePath) :
    readReferenced (w.withContents parts new) p = readReferenced w p ∨
      (w.Reaches p parts ∧ readReferenced w p = .ok old ∧
        readReferenced (w.withContents parts new) p = .ok new) := by
  unfold readReferenced
  rcases World.read_withContents there new p with same | ⟨reaches, before, after⟩
  · rw [same]
    exact .inl rfl
  · rw [before, after]
    cases Failure.checkSurrogates (fun n => !Text.Utf16.isByteMark n) p.text with
    | error e => exact .inl rfl
    | ok _ =>
      cases World.hasNul p with
      | true => exact .inl rfl
      | false => exact .inr ⟨reaches, rfl, rfl⟩

theorem readsFile_agrees {α : Type} {R : α → α → Prop}
    {f : FilePath → List UInt8 → Except Failure α}
    (there : w.node? parts = some (.file (.bytes old))) (reflexive : ∀ x, R x x)
    (changed : ∀ p, referencedPath w base v = .ok p → w.Reaches p parts →
      Agree R (f p old) (f p new)) :
    Agree R (readsFile w base v f) (readsFile (w.withContents parts new) base v f) := by
  unfold readsFile
  rw [(sameHomes_withContents w parts new).referencedPath]
  cases named : referencedPath w base v with
  | error e => exact .error e
  | ok p =>
    change Agree R (readReferenced w p >>= f p)
      (readReferenced (w.withContents parts new) p >>= f p)
    rcases readReferenced_withContents there new p with same | ⟨reaches, before, after⟩
    · rw [same]
      exact .refl reflexive _
    · rw [before, after]
      exact changed p named reaches

/-- A file that a value does not name can have any contents. -/
theorem readsFile_unnamed {α : Type} {f : FilePath → List UInt8 → Except Failure α}
    (there : w.node? parts = some (.file (.bytes old))) (given : v.truthy = true)
    (unnamed : ¬ NamesFile w base v parts) :
    readsFile (w.withContents parts new) base v f = readsFile w base v f := by
  have agree : Agree Eq (readsFile w base v f) (readsFile (w.withContents parts new) base v f) := by
    refine readsFile_agrees there (fun _ => rfl) fun p named reaches => ?_
    exact absurd ⟨given, p, named, reaches⟩ unnamed
  exact agree.eq.symm

theorem tokenFromFile_unnamed (there : w.node? parts = some (.file (.bytes old)))
    (given : v.truthy = true) (unnamed : ¬ NamesFile w base v parts) :
    tokenFromFile (w.withContents parts new) base v = tokenFromFile w base v :=
  readsFile_unnamed there given unnamed

theorem material_unnamed {kind : String} (there : w.node? parts = some (.file (.bytes old)))
    (unnamed : ¬ NamesFile w base (Value.field user kind) parts) :
    material (w.withContents parts new) user kind base = material w user kind base := by
  rw [material_eq, material_eq]
  split
  · rfl
  · split
    · rename_i given
      exact readsFile_unnamed there given unnamed
    · rfl

theorem tokenFromFile_agrees (there : w.node? parts = some (.file (.bytes old)))
    (first : IsText old) (second : IsText new) :
    Agree (fun c c' => c.withoutSecret = c'.withoutSecret)
      (tokenFromFile w base v) (tokenFromFile (w.withContents parts new) base v) := by
  refine readsFile_agrees there (fun _ => rfl) fun _ _ _ => ?_
  obtain ⟨text, read⟩ := first
  obtain ⟨text', read'⟩ := second
  rw [read, read']
  refine .ok ?_
  rw [bearer_withoutSecret, bearer_withoutSecret]

theorem ofBytes_ne_empty {bytes : List UInt8} (given : bytes ≠ []) :
    Text.Base64.ofBytes bytes ≠ "" := by
  intro empty
  have encoded : Text.Base64.encode bytes = [] := by
    have lists := congrArg String.toList empty
    unfold Text.Base64.ofBytes at lists
    rwa [String.toList_ofList] at lists
  match bytes with
  | [] => exact given rfl
  | [_] => cases encoded
  | [_, _] => cases encoded
  | _ :: _ :: _ :: _ => cases encoded

/-- Two values for a key that are the same, or both given as texts. -/
def KeysAgree (x y : Value) : Prop :=
  x = y ∨ ∃ a b, a ≠ "" ∧ b ≠ "" ∧ x = .str a ∧ y = .str b

theorem material_agrees {kind : String} (there : w.node? parts = some (.file (.bytes old)))
    (first : old ≠ []) (second : new ≠ []) :
    Agree KeysAgree (material w user kind base)
      (material (w.withContents parts new) user kind base) := by
  rw [material_eq, material_eq]
  split
  · exact .ok (.inl rfl)
  · split
    · refine readsFile_agrees there (fun _ => .inl rfl) fun _ _ _ => ?_
      exact .ok (.inr ⟨_, _, ofBytes_ne_empty first, ofBytes_ne_empty second, rfl, rfl⟩)
    · exact .ok (.inl rfl)

theorem credentials_agree_of_tokenFile (given : (Value.field user "tokenFile").truthy = true)
    (there : w.node? parts = some (.file (.bytes old))) (first : IsText old)
    (second : IsText new) :
    Traced.Agrees SameButSecret (credentials w user name base)
      (credentials (w.withContents parts new) user name base) := by
  rw [credentials_eq, credentials_eq, if_pos given, if_pos given]
  split
  · exact .refl (fun _ => ⟨rfl, rfl⟩) _
  · refine .bind (.lift (tokenFromFile_agrees there first second)) ?_
    exact fun c c' same => .pure ⟨same, rfl⟩

theorem credentials_agree_of_keyFile (there : w.node? parts = some (.file (.bytes old)))
    (first : old ≠ []) (second : new ≠ [])
    (certificate : ¬ NamesFile w base (Value.field user "client-certificate") parts)
    (tokenFile : (Value.field user "token").truthy = false →
      ¬ NamesFile w base (Value.field user "tokenFile") parts) :
    Traced.Agrees SameButSecret (credentials w user name base)
      (credentials (w.withContents parts new) user name base) := by
  refine credentials_agree_below rfl rfl
    (fun absent given => tokenFromFile_unnamed there given (tokenFile absent))
    (material_unnamed there certificate) fun c => ?_
  refine .bind (.lift (material_agrees there first second)) ?_
  -- Without contents the key would count as absent, and another method would be tried.
  rintro x y (rfl | ⟨a, b, given, given', rfl, rfl⟩)
  · have samePlugin : (w.withContents parts new).plugin = w.plugin := rfl
    rw [certifiedOr_congr samePlugin]
    exact .refl (fun _ => ⟨rfl, rfl⟩) _
  · exact certifiedOr_agrees c given given'

end Files

/-! ### The header of the plugin -/

theorem sameHomes_withPlugin (w : World) (plugin : PluginBehaviour) :
    SameHomes w (w.withPlugin plugin) := ⟨rfl, rfl, rfl⟩

theorem readsFile_withPlugin {α : Type} (w : World) (plugin : PluginBehaviour) (base : FilePath)
    (v : Value) (f : FilePath → List UInt8 → Except Failure α) :
    readsFile (w.withPlugin plugin) base v f = readsFile w base v f := by
  have reads (p : FilePath) : readReferenced (w.withPlugin plugin) p = readReferenced w p := by
    unfold readReferenced
    rw [World.read_withPlugin]
  unfold readsFile
  rw [(sameHomes_withPlugin w plugin).referencedPath]
  simp only [reads]

theorem material_withPlugin (w : World) (plugin : PluginBehaviour) (user : Entries) (kind : String)
    (base : FilePath) :
    material (w.withPlugin plugin) user kind base = material w user kind base := by
  rw [material_eq, material_eq, readsFile_withPlugin]

theorem basicOrPlugin_agrees_of_plugin (plugged : w.plugin = .header a) (given : a ≠ "")
    (given' : b ≠ "") : Traced.Agrees SameButSecret (basicOrPlugin w user name base)
      (basicOrPlugin (w.withPlugin (.header b)) user name base) := by
  unfold basicOrPlugin
  dsimp only
  split
  · exact .refl (fun _ => ⟨rfl, rfl⟩) _
  · split
    · refine .bind (pluginCredentials_agrees plugged rfl given given') ?_
      exact fun c c' same => .pure ⟨same, rfl⟩
    · exact ⟨.error _, rfl, rfl⟩

theorem credentials_agree_of_plugin (plugged : w.plugin = .header a) (given : a ≠ "")
    (given' : b ≠ "") : Traced.Agrees SameButSecret (credentials w user name base)
      (credentials (w.withPlugin (.header b)) user name base) := by
  refine credentials_agree_below rfl rfl (fun _ _ => readsFile_withPlugin _ _ _ _ _)
    (material_withPlugin _ _ _ _ _) fun c => ?_
  rw [material_withPlugin]
  refine .bind (R := Eq) (.refl (fun _ => rfl) _) ?_
  rintro key _ rfl
  unfold certifiedOr
  split
  · exact .refl (fun _ => ⟨rfl, rfl⟩) _
  · split
    · exact .refl (fun _ => ⟨rfl, rfl⟩) _
    · exact basicOrPlugin_agrees_of_plugin plugged given given'

/-! ### Whole resolutions -/

theorem usersAgree_of_differs (h : DiffersInSecret w user base w' user') :
    UsersAgree w w' base user user' := by
  cases h with
  | value member others value value' first second =>
    have kept {key : String} (plain : key ∉ secretFields) :
        Value.field user' key = Value.field user key :=
      field_of_field? (others key fun same => plain (same ▸ member))
    exact ⟨⟨rfl, rfl, rfl⟩, kept (by decide), kept (by decide), fun name =>
      credentials_agree_of_value member others value value' first second⟩
  | tokenFile tokenFile named there first second =>
    exact ⟨⟨rfl, rfl, rfl⟩, rfl, rfl, fun name =>
      credentials_agree_of_tokenFile (tokenFile ▸ named.1) there first second⟩
  | keyFile _ _ there first second certificate tokenFile =>
    exact ⟨⟨rfl, rfl, rfl⟩, rfl, rfl, fun name =>
      credentials_agree_of_keyFile there first second certificate tokenFile⟩
  | plugin plugged given given' =>
    exact ⟨⟨rfl, rfl, rfl⟩, rfl, rfl, fun name => credentials_agree_of_plugin plugged given given'⟩

/-- A second input that differs from a first one in a secret of the selected user alone. -/
structure SecretVariant (w : World) (d : Document) (context : Value) (w' : World) (d' : Document)
    (user user' : Entries) : Prop where
  path : d'.path = d.path
  sections : ∀ key, key ≠ "users" → Value.field d'.entries key = Value.field d.entries key
  selected : selected? d context "users" "user" = some user
  selected' : selected? d' context "users" "user" = some user'
  differs : DiffersInSecret w user d.path.parent w' user'

/-- The secret of the selected user shows in the credentials of the profile, and nowhere else. -/
theorem secret_stays_inside {w w' : World} {d d' : Document} {context : Value}
    {user user' : Entries} (variant : SecretVariant w d context w' d' user user')
    (userAgent : Value) :
    (resolve w d context userAgent).records = (resolve w' d' context userAgent).records ∧
    (resolve w d context userAgent).calls = (resolve w' d' context userAgent).calls ∧
    ((∃ p q, (resolve w d context userAgent).result = .ok p ∧
        (resolve w' d' context userAgent).result = .ok q ∧
        p.withoutSecret = q.withoutSecret ∧ p.describe = q.describe) ∨
      ∃ e, (resolve w d context userAgent).result = .error e ∧
        (resolve w' d' context userAgent).result = .error e) := by
  have runs : RunsAgree w w' d d' context user user' :=
    ⟨variant.path, variant.sections, variant.selected, variant.selected',
      usersAgree_of_differs variant.differs⟩
  obtain ⟨result, records, calls⟩ := resolve_agrees runs userAgent
  refine ⟨records, calls, ?_⟩
  generalize (resolve w d context userAgent).result = x at result ⊢
  generalize (resolve w' d' context userAgent).result = y at result ⊢
  cases result with
  | error e => exact .inr ⟨e, rfl, rfl⟩
  | @ok p q same =>
    refine .inl ⟨p, q, rfl, rfl, same, ?_⟩
    rw [← p.describe_withoutSecret, same, q.describe_withoutSecret]

def tokenDocument (token : String) : Document :=
  .single (.str "c") [(.str "server", .str "https://h")] [(.str "token", .str token)]

theorem tokens_are_secrets : SecretVariant {} (tokenDocument "t") .null {} (tokenDocument "u")
    [(.str "token", .str "t")] [(.str "token", .str "u")] := by
  refine ⟨rfl, fun key other => ?_, by cbv, by cbv, ?_⟩
  · simp [tokenDocument, Document.single, Value.field, Value.field?, Value.lookup?,
      List.find?_cons, Value.same, Ne.symm other]
  · have member : "token" ∈ secretFields := by decide
    refine .value member (fun key other => ?_) (by cbv) (by cbv) ?_ ?_
    · simp [Value.field?, Value.lookup?, Value.same, Ne.symm other]
    · exact ⟨by decide, by cbv⟩
    · exact ⟨by decide, by cbv⟩

def tokenProfile (token : String) : Profile :=
  { endpoint := "https://h", credentials := .bearer token, trust := none, userAgent := "ua",
    verify := true, impersonate := .null, groups := [] }

/-- A certificate in the working directory, and its key elsewhere. -/
def keyWorld : World :=
  { directory := ["srv"]
    files := [(["srv", "crt"], .bytes [97]), (["etc", "pki", "key"], .bytes [98])] }

def keyUser : Entries :=
  [(.str "client-certificate", .str "crt"), (.str "client-key", .str "/etc/pki/key")]

def keyDocument : Document :=
  .single (.str "c") [(.str "server", .str "https://h")] keyUser

theorem key_files_are_secrets : SecretVariant keyWorld keyDocument .null
    (keyWorld.withContents ["etc", "pki", "key"] [99]) keyDocument keyUser keyUser := by
  have certificate : Value.field keyUser "client-certificate" = .str "crt" := by cbv
  have tokenFile : Value.field keyUser "tokenFile" = .null := by cbv
  have named : referencedPath keyWorld keyDocument.path.parent (.str "crt") =
      .ok ⟨"", ["crt"]⟩ := by cbv
  have keyed : referencedPath keyWorld keyDocument.path.parent (.str "/etc/pki/key") =
      .ok ⟨"/", ["etc", "pki", "key"]⟩ := by cbv
  have walked : keyWorld.Reaches ⟨"", ["crt"]⟩ ["srv", "crt"] := by cbv
  have there : keyWorld.node? ["etc", "pki", "key"] = some (.file (.bytes [98])) := by cbv
  refine ⟨rfl, fun _ _ => rfl, by cbv, by cbv, ?_⟩
  refine .keyFile (by cbv) ⟨rfl, _, keyed, by cbv⟩ there (by decide) (by decide) ?_ ?_
  · rintro ⟨_, p, found, reaches⟩
    rw [certificate, named] at found
    obtain rfl := Except.ok.inj found
    have same := Except.ok.inj (walked.symm.trans reaches)
    exact absurd same (by decide)
  · rintro _ ⟨given, _⟩
    rw [tokenFile] at given
    cases given

theorem token_and_key_stay_inside :
    (tokenProfile "t").describe = (tokenProfile "u").describe ∧
      (resolve {} (tokenDocument "t") .null (.str "ua")).result = .ok (tokenProfile "t") ∧
      (resolve {} (tokenDocument "u") .null (.str "ua")).result = .ok (tokenProfile "u") ∧
      (resolve {} (tokenDocument "t") .null (.str "ua")).records =
        (resolve {} (tokenDocument "u") .null (.str "ua")).records ∧
      (resolve keyWorld keyDocument .null (.str "ua")).result.isOk = true ∧
      (resolve keyWorld keyDocument .null (.str "ua")).records =
        (resolve (keyWorld.withContents ["etc", "pki", "key"] [99]) keyDocument .null
          (.str "ua")).records := by
  have first : (resolve {} (tokenDocument "t") .null (.str "ua")).result =
      .ok (tokenProfile "t") := by cbv
  have second : (resolve {} (tokenDocument "u") .null (.str "ua")).result =
      .ok (tokenProfile "u") := by cbv
  have resolved : (resolve keyWorld keyDocument .null (.str "ua")).result.isOk = true := by
    decide +kernel
  have keyed := (secret_stays_inside key_files_are_secrets (.str "ua")).1
  obtain ⟨records, _, ⟨p, q, ended, ended', _, described⟩ | ⟨e, failed, _⟩⟩ :=
    secret_stays_inside tokens_are_secrets (.str "ua")
  · obtain rfl := Except.ok.inj (first.symm.trans ended)
    obtain rfl := Except.ok.inj (second.symm.trans ended')
    exact ⟨described, first, second, records, resolved, keyed⟩
  · cases first.symm.trans failed

end ClusterAccess.Kubeconfig
