import ClusterAccess.Proofs.Resolution.UsedValues
import ClusterAccess.Proofs.Text.Separated
import ClusterAccess.Proofs.Text.Utf8

/-!
# Headers made of a user name and a password

A user who gives nothing better than a name and a password authenticates by a header that holds
both. Its base64 text decodes to the name, a colon and the password; a name without a colon is told
by the first colon, whatever the password holds (`basic_header_decodes`).
-/

namespace ClusterAccess.Kubeconfig

open Connection Text

/-- A user name and a password, and nothing that outranks them. -/
structure PasswordOnly (user : Entries) (name password : String) : Prop where
  noToken : (Value.field user "token").truthy = false
  noTokenFile : (Value.field user "tokenFile").truthy = false
  noInline : ∀ kind ∈ materials, (Value.field user (kind ++ "-data")).truthy = false
  noFile : ∀ kind ∈ materials, (Value.field user kind).truthy = false
  nameField : Value.field user "username" = .str name
  passwordField : Value.field user "password" = .str password
  nameGiven : name ≠ ""
  passwordGiven : password ≠ ""
  nameEncodes : Utf8.Encodable name
  passwordEncodes : Utf8.Encodable password

/-- The base64 text of a header for a user name and a password. -/
def basicText (name password : String) : String :=
  Base64.ofBytes (Utf8.ofString (name ++ ":" ++ password))

/-- A resolution by a user name and a password that ends in a profile. -/
inductive ByPassword (name password : String) (p : Profile) : Prop
  | intro {w : World} {d : Document} {context userAgent : Value} {user : Entries}
    (selected : selected? d context "users" "user" = some user)
    (only : PasswordOnly user name password)
    (resolved : (resolve w d context userAgent).result = .ok p)

variable {w : World} {d : Document} {user : Entries} {base : FilePath} {context userAgent v : Value}
  {name password name' password' : String} {p q : Profile}

/-! ### The method that decides -/

theorem PasswordOnly.decides (only : PasswordOnly user name password) :
    Decides w user base .basic := by
  have truthy {s : String} (some : s ≠ "") : (Value.str s).truthy = true := by
    simpa [Value.truthy] using some
  refine ⟨⟨?_, ?_⟩, fun higher above => ?_⟩
  · rw [only.nameField]
    exact truthy only.nameGiven
  · rw [only.passwordField]
    exact truthy only.passwordGiven
  · have unset {v : Value} (falsy : v.truthy = false) : ¬ v.truthy = true := by
      rw [falsy]
      exact Bool.false_ne_true
    cases higher with
    | token => exact unset only.noToken
    | tokenFile => exact unset only.noTokenFile
    | clientCertificate =>
      rintro ⟨kind, member, configured⟩
      have none : material w user kind base = .ok .null := by
        rw [material_eq, if_neg (unset (only.noInline kind member)),
          if_neg (unset (only.noFile kind member))]
      cases configured .null none
    | basic => exact absurd above (by decide)
    | plugin => exact absurd above (by decide)

theorem PasswordOnly.encodes (only : PasswordOnly user name password) :
    Utf8.Encodable (name ++ ":" ++ password) := by
  have colon : Utf8.Encodable ":" := Utf8.surrogates?_eq_none.mp (by decide +kernel)
  exact Utf8.encodable_append.mpr
    ⟨Utf8.encodable_append.mpr ⟨only.nameEncodes, colon⟩, only.passwordEncodes⟩

/-- The credentials of such a user are there, whatever the surroundings. -/
theorem PasswordOnly.credentials (only : PasswordOnly user name password) :
    (credentials w user v base).result =
      .ok (.header ("Basic " ++ basicText name password), .basic) := by
  obtain ⟨bytes, encoded⟩ := bytesOf_ok_iff.mpr (Utf8.surrogates?_eq_none.mpr only.encodes)
  obtain rfl := bytesOf_eq encoded
  have out : WrittenOut user .basic (.header ("Basic " ++ basicText name password)) := by
    refine .basic ?_ ?_ ?_
    · rw [only.nameField]
      rfl
    · rw [only.passwordField]
      rfl
    · rw [only.nameField, only.passwordField]
      exact encoded
  exact out.credentials only.decides

theorem ByPassword.credentials (run : ByPassword name password p) :
    p.credentials = .header ("Basic " ++ basicText name password) := by
  obtain ⟨selected, only, resolved⟩ := run
  obtain ⟨method, ended⟩ := resolved_credentials selected resolved
  rw [only.credentials] at ended
  exact (Prod.mk.inj (Except.ok.inj ended)).1.symm

/-! ### What the header tells -/

theorem decode_basicText (name password : String) :
    Base64.decode .strict (basicText name password).toList =
      .ok (Utf8.ofString name ++ 0x3A :: Utf8.ofString password) := by
  unfold basicText Base64.ofBytes
  rw [String.toList_ofList, Base64.decode_encode, Utf8.ofString_colon]

theorem basicText_inj (free : ':' ∉ name.toList) (free' : ':' ∉ name'.toList) :
    basicText name password = basicText name' password' ↔ name = name' ∧ password = password' := by
  unfold basicText Base64.ofBytes
  rw [String.ofList_inj, Base64.encode_inj, Utf8.ofString_inj, ← String.toList_inj,
    toList_joined ':' rfl, toList_joined ':' rfl, append_cons_inj_left free free',
    String.toList_inj, String.toList_inj]

/-- A header made of a user name and a password holds padded base64 of both with a colon between
them, and two such headers are the same only for the same user name and password. -/
theorem basic_header_decodes (run : ByPassword name password p) :
    (∃ text, p.credentials = .header ("Basic " ++ text) ∧
      (∀ c ∈ text.toList, Base64.InAlphabet c ∨ c = '=') ∧ text.length % 4 = 0 ∧
      Base64.decode .strict text.toList =
        .ok (Utf8.ofString name ++ 0x3A :: Utf8.ofString password)) ∧
    ∀ {name' password' q}, ByPassword name' password' q → ':' ∉ name.toList → ':' ∉ name'.toList →
      (p.credentials = q.credentials ↔ name = name' ∧ password = password') := by
  constructor
  · have read := decode_basicText name password
    refine ⟨basicText name password, run.credentials, Base64.decode_alphabet read, ?_, read⟩
    unfold basicText Base64.ofBytes
    rw [String.length_ofList]
    exact Base64.length_encode _
  · intro name' password' q run' free free'
    rw [run.credentials, run'.credentials, Credentials.header.injEq, String.append_right_inj]
    exact basicText_inj free free'

/-- Without the condition on names a colon could belong to either part. -/
example : basicText "a:b" "c" = basicText "a" "b:c" := by rfl

def passwordUser (name password : String) : Entries :=
  [(.str "username", .str name), (.str "password", .str password)]

theorem passwordUser_only {name password : String} (nameGiven : name ≠ "")
    (passwordGiven : password ≠ "") (nameEncodes : Utf8.Encodable name)
    (passwordEncodes : Utf8.Encodable password) :
    PasswordOnly (passwordUser name password) name password := by
  refine ⟨by cbv, by cbv, ?_, ?_, by cbv, by cbv, nameGiven, passwordGiven, nameEncodes,
    passwordEncodes⟩
  · simp only [materials, List.forall_mem_cons]
    exact ⟨by cbv, by cbv, by simp⟩
  · simp only [materials, List.forall_mem_cons]
    exact ⟨by cbv, by cbv, by simp⟩

theorem passwordUser_selected (name password : String) :
    selected? (.ofUser (passwordUser name password)) .null "users" "user" =
      some (passwordUser name password) := by
  cbv

/-- A password with a colon and a character outside ASCII. -/
theorem colon_told_in_password :
    ByPassword "a" "b:ü" (headerProfile "Basic YTpiOsO8") ∧
      ByPassword "a" "b" (headerProfile "Basic YTpi") ∧
      (headerProfile "Basic YTpiOsO8").credentials ≠ (headerProfile "Basic YTpi").credentials := by
  have encodes {s : String} (none : Utf8.surrogates? (fun _ => true) s.toList = none) :
      Utf8.Encodable s := Utf8.surrogates?_eq_none.mp none
  have name : Utf8.Encodable "a" := encodes (by decide +kernel)
  have resolved : (resolve {} (.ofUser (passwordUser "a" "b:ü")) .null (.str "ua")).result =
      .ok (headerProfile "Basic YTpiOsO8") := by cbv
  have resolved' : (resolve {} (.ofUser (passwordUser "a" "b")) .null (.str "ua")).result =
      .ok (headerProfile "Basic YTpi") := by cbv
  have first : ByPassword "a" "b:ü" (headerProfile "Basic YTpiOsO8") :=
    .intro (passwordUser_selected _ _)
      (passwordUser_only (by decide) (by decide) name (encodes (by decide +kernel))) resolved
  have second : ByPassword "a" "b" (headerProfile "Basic YTpi") :=
    .intro (passwordUser_selected _ _)
      (passwordUser_only (by decide) (by decide) name (encodes (by decide +kernel))) resolved'
  refine ⟨first, second, fun same => ?_⟩
  have told := ((basic_header_decodes first).2 second (by decide) (by decide)).mp same
  exact absurd told.2 (by decide)

end ClusterAccess.Kubeconfig
