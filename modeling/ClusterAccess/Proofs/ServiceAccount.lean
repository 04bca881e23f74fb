import ClusterAccess.Proofs.Assembly
import ClusterAccess.Proofs.Text.Utf8
import ClusterAccess.Proofs.World
import ClusterAccess.ServiceAccount

/-!
# Tokens of service accounts

The header of a service account is made of the characters of the token's file, with line ends
unified and nothing else changed. So a token without a carriage return is taken as it is, and two
such tokens are told apart. Of the authorities only the path is taken (`token_taken`).
-/

namespace ClusterAccess.ServiceAccount

variable {w w' : World} {path token authorities userAgent : Value}

/-! ### What an account sees -/

theorem readToken_congr (reads : ∀ p, FilePath.ofValue path = .ok p → w'.read p = w.read p) :
    readToken w' path = readToken w path := by
  unfold readToken
  refine result_bind_congr fun p named => ?_
  rw [reads p named]

theorem findAuthorities_congr
    (asks : ∀ p, FilePath.ofValue path = .ok p → w'.present p = w.present p) :
    findAuthorities w' path = findAuthorities w path := by
  unfold findAuthorities
  refine result_bind_congr fun p named => ?_
  rw [asks p named]

theorem profile_congr (reads : ∀ p, FilePath.ofValue token = .ok p → w'.read p = w.read p)
    (asks : ∀ p, FilePath.ofValue authorities = .ok p → w'.present p = w.present p) :
    profile w' userAgent token authorities = profile w userAgent token authorities := by
  unfold profile
  rw [readToken_congr reads, findAuthorities_congr asks]

/-! ### The token -/

/-- A file that can be opened and holds the bytes of a text. -/
structure HoldsText (w : World) (file : String) (cs : List Char) : Prop where
  encodable : Text.Utf8.surrogates? (fun n => !Text.Utf16.isByteMark n)
    (FilePath.ofString file).text.toList = none
  terminated : World.hasNul (FilePath.ofString file) = false
  read : w.read (FilePath.ofString file) = .ok (Text.Utf8.encode cs)

/-- The header of a token with these characters. -/
def headerOf (cs : List Char) : Credentials :=
  .header ("Bearer " ++ String.ofList (Text.unifyLineEnds cs))

/-- A profile has the header of the token, and the path of the authorities if they are there. -/
structure Taken (w : World) (cs : List Char) (authorities userAgent : String) (p : Profile) :
    Prop where
  credentials : p.credentials = headerOf cs
  present : w.Stands (FilePath.ofString authorities) → p.trust = some (.file authorities)
  absent : ¬ w.Stands (FilePath.ofString authorities) → p.trust = none
  endpoint : p.endpoint = endpoint
  userAgent : p.userAgent = userAgent
  verify : p.verify = true

section Token

variable {cs cs' : List Char} {file file' ca ca' agent agent' : String} {p p' : Profile}

theorem readToken_of_holds (h : HoldsText w file cs) :
    readToken w (.str file) = .ok (String.ofList (Text.unifyLineEnds cs)) := by
  have plain : Failure.checkSurrogates (fun n => !Text.Utf16.isByteMark n)
      (FilePath.ofString file).text = .ok () := by
    unfold Failure.checkSurrogates
    rw [h.encodable]
  unfold readToken FilePath.ofValue
  refine result_bind_ok.mpr ⟨_, rfl, result_bind_ok.mpr ⟨(), plain, ?_⟩⟩
  rw [if_neg (by rw [h.terminated]; exact Bool.false_ne_true), h.read]
  refine result_bind_ok.mpr ⟨_, rfl, ?_⟩
  rw [Text.Utf8.decode_encode]
  rfl

theorem bearer_inj {xs ys : List Char} :
    Credentials.bearer (String.ofList xs) = .bearer (String.ofList ys) ↔ xs = ys := by
  constructor
  · intro same
    exact String.ofList_injective ((String.append_right_inj _).mp (Credentials.header.inj same))
  · rintro rfl
    rfl

/-! ### The authorities -/

theorem findAuthorities_of_stands (h : w.Stands (FilePath.ofString ca)) :
    findAuthorities w (.str ca) = .ok (some (.file ca)) := by
  unfold findAuthorities FilePath.ofValue
  refine result_bind_ok.mpr ⟨_, rfl, ?_⟩
  rw [World.present_true_iff.mpr h]
  rfl

theorem findAuthorities_of_absent (absent : ¬ w.Stands (FilePath.ofString ca))
    (asked : ∀ c, ¬ w.Refuses (FilePath.ofString ca) c) :
    findAuthorities w (.str ca) = .ok none := by
  unfold findAuthorities FilePath.ofValue
  refine result_bind_ok.mpr ⟨_, rfl, ?_⟩
  cases answer : w.present (FilePath.ofString ca) with
  | error e =>
    obtain ⟨c, refused, _⟩ := World.ask_error_iff.mp answer
    exact absurd refused (asked c)
  | ok there =>
    cases there with
    | true => exact absurd (World.present_true_iff.mp answer) absent
    | false => rfl

theorem findAuthorities_of_refused {c : FileCause} (h : w.Refuses (FilePath.ofString ca) c) :
    findAuthorities w (.str ca) = .error (.file ⟨c, (FilePath.ofString ca).text⟩) := by
  have failed : w.present (FilePath.ofString ca) = .error ⟨c, _⟩ :=
    World.ask_error_iff.mpr ⟨c, h, rfl⟩
  unfold findAuthorities FilePath.ofValue
  refine result_bind_error.mpr (.inr ⟨_, rfl, ?_⟩)
  rw [failed]
  rfl

/-- What files hold has no part in what is found of the authorities. -/
theorem findAuthorities_of_sameKinds (same : World.SameKinds w w') :
    findAuthorities w' path = findAuthorities w path :=
  findAuthorities_congr fun p _ => World.present_of_sameKinds same p

/-! ### The profile -/

def profileOf (cs : List Char) (trust : Option TrustSource) (userAgent : String) : Profile :=
  { endpoint := endpoint, credentials := headerOf cs, trust := trust, userAgent := userAgent
    verify := true, impersonate := .null, groups := [] }

theorem profile_of_found {trust : Option TrustSource} (held : HoldsText w file cs)
    (found : findAuthorities w (.str ca) = .ok trust) :
    (profile w (.str agent) (.str file) (.str ca)).result = .ok (profileOf cs trust agent) := by
  unfold profile
  rw [readToken_of_holds held, found]
  refine Traced.result_bind_ok.mpr ⟨_, rfl, Traced.result_bind_ok.mpr ⟨_, rfl, ?_⟩⟩
  cases trust <;> rfl

theorem profile_of_unfound {e : Failure} (held : HoldsText w file cs)
    (failed : findAuthorities w (.str ca) = .error e) :
    (profile w (.str agent) (.str file) (.str ca)).result = .error e := by
  unfold profile
  rw [readToken_of_holds held, failed]
  exact Traced.result_bind_error.mpr (.inr ⟨_, rfl, Traced.result_bind_error.mpr (.inl rfl)⟩)

/-- A profile that is made is made of the token and of what was found of the authorities. -/
theorem profile_ok (held : HoldsText w file cs)
    (made : (profile w (.str agent) (.str file) (.str ca)).result = .ok p) :
    ∃ trust, findAuthorities w (.str ca) = .ok trust ∧ p = profileOf cs trust agent := by
  cases found : findAuthorities w (.str ca) with
  | error e => cases made.symm.trans (profile_of_unfound held found)
  | ok trust => exact ⟨trust, rfl, Except.ok.inj (made.symm.trans (profile_of_found held found))⟩

theorem profile_taken (held : HoldsText w file cs)
    (asked : ∀ c, ¬ w.Refuses (FilePath.ofString ca) c) :
    ∃ p, (profile w (.str agent) (.str file) (.str ca)).result = .ok p ∧
      Taken w cs ca agent p := by
  by_cases stands : w.Stands (FilePath.ofString ca)
  · exact ⟨_, profile_of_found held (findAuthorities_of_stands stands), rfl, fun _ => rfl,
      fun absent => absurd stands absent, rfl, rfl, rfl⟩
  · exact ⟨_, profile_of_found held (findAuthorities_of_absent stands asked), rfl,
      fun there => absurd there stands, fun _ => rfl, rfl, rfl, rfl⟩

/-- The header is made of the token's characters, unchanged but for carriage returns, and the
authorities are their path. -/
theorem token_taken (held : HoldsText w file cs) (ca agent : String) :
    ((∀ c, ¬ w.Refuses (FilePath.ofString ca) c) →
      ∃ p, (profile w (.str agent) (.str file) (.str ca)).result = .ok p ∧
        Taken w cs ca agent p) ∧
    (∀ c, w.Refuses (FilePath.ofString ca) c →
      (profile w (.str agent) (.str file) (.str ca)).result =
        .error (.file ⟨c, (FilePath.ofString ca).text⟩)) ∧
    (headerOf cs = .header ("Bearer " ++ String.ofList cs) ↔ '\r' ∉ cs) ∧
    ∀ w' file' cs' agent' p p', HoldsText w' file' cs' →
      (profile w (.str agent) (.str file) (.str ca)).result = .ok p →
      (∀ ca', (profile w' (.str agent') (.str file') (.str ca')).result = .ok p' →
        (p'.credentials = p.credentials ↔ Text.unifyLineEnds cs' = Text.unifyLineEnds cs) ∧
        ('\r' ∉ cs → '\r' ∉ cs' → Text.Utf8.encode cs' ≠ Text.Utf8.encode cs →
          p'.credentials ≠ p.credentials)) ∧
      (World.SameKinds w w' → (profile w' (.str agent') (.str file') (.str ca)).result = .ok p' →
        p'.trust = p.trust) := by
  refine ⟨profile_taken held, fun c refused => ?_, ?_, fun w' file' cs' agent' p p' held' made => ?_⟩
  · exact profile_of_unfound held (findAuthorities_of_refused refused)
  · exact bearer_inj.trans Text.unifyLineEnds_eq_self_iff
  · obtain ⟨trust, found, rfl⟩ := profile_ok held made
    refine ⟨fun ca' made' => ?_, fun kinds made' => ?_⟩
    · obtain ⟨trust', _, rfl⟩ := profile_ok held' made'
      refine ⟨bearer_inj, fun plain plain' different same => different ?_⟩
      have unified : Text.unifyLineEnds cs' = Text.unifyLineEnds cs := bearer_inj.mp same
      rw [Text.unifyLineEnds_eq_self_iff.mpr plain,
        Text.unifyLineEnds_eq_self_iff.mpr plain'] at unified
      rw [unified]
    · obtain ⟨trust', found', rfl⟩ := profile_ok held' made'
      rw [findAuthorities_of_sameKinds kinds, found] at found'
      exact (Except.ok.inj found').symm

end Token

/-- Surroundings with a token and something in the place of the authorities, where a cluster puts
them. -/
def mounted (token authorities : List UInt8) : World :=
  { directory := ["srv"]
    files := [
      (["var", "run", "secrets", "kubernetes.io", "serviceaccount", "token"], .bytes token),
      (["var", "run", "secrets", "kubernetes.io", "serviceaccount", "ca.crt"],
        .bytes authorities)] }

theorem mounted_holds (cs : List Char) (bs : List UInt8) :
    HoldsText (mounted (Text.Utf8.encode cs) bs) tokenPath cs :=
  ⟨by decide +kernel, by decide +kernel, by cbv⟩

theorem mounted_stands (token bs : List UInt8) :
    (mounted token bs).Stands (FilePath.ofString authoritiesPath) :=
  ⟨by decide +kernel, _, by cbv⟩

/-- A line feed at the end stays. -/
theorem line_feed_kept :
    HoldsText (mounted (Text.Utf8.encode ['a', '\n']) []) tokenPath ['a', '\n'] ∧
    ∃ p, (profile (mounted (Text.Utf8.encode ['a', '\n']) []) (.str "ua") (.str tokenPath)
        (.str authoritiesPath)).result = .ok p ∧
      p.credentials = .header "Bearer a\n" ∧ p.trust = some (.file authoritiesPath) := by
  have held := mounted_holds ['a', '\n'] []
  obtain ⟨taken, _, verbatim, _⟩ := token_taken held authoritiesPath "ua"
  have stands := mounted_stands (Text.Utf8.encode ['a', '\n']) []
  obtain ⟨p, made, parts⟩ := taken stands.not_refused
  exact ⟨held, p, made, parts.credentials.trans (verbatim.mpr (by decide)), parts.present stands⟩

/-- A carriage return is lost, and with it the difference between two tokens. -/
theorem carriage_return_lost :
    ∃ p p', (profile (mounted [97, 13, 10, 98] []) (.str "ua") (.str tokenPath)
        (.str authoritiesPath)).result = .ok p ∧
      (profile (mounted [97, 10, 98] []) (.str "ua") (.str tokenPath)
        (.str authoritiesPath)).result = .ok p' ∧
      p.credentials ≠ .header "Bearer a\r\nb" ∧ p.credentials = p'.credentials := by
  have found (token : List UInt8) : findAuthorities (mounted token []) (.str authoritiesPath) =
      .ok (some (.file authoritiesPath)) := findAuthorities_of_stands (mounted_stands token [])
  refine ⟨_, _, profile_of_found (mounted_holds ['a', '\r', '\n', 'b'] []) (found _),
    profile_of_found (mounted_holds ['a', '\n', 'b'] []) (found _), ?_, ?_⟩
  · decide +kernel
  · rfl

end ClusterAccess.ServiceAccount
