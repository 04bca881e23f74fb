import ClusterAccess.Proofs.Connection.Delivery
import ClusterAccess.Proofs.Resolution.Readiness
import ClusterAccess.Proofs.Text.Utf8

/-!
# Inline authorities

A text given inline is the base64 form of the authorities, or an error. It never gives way to the
file that the cluster names, nor to the authorities of the system. What is written as base64, with
blanks anywhere, comes back byte by byte in the file that a client reads
(`inline_authorities_exact`).
-/

namespace ClusterAccess.Kubeconfig

open Connection

variable {w : World} {cluster : Entries} {base : FilePath} {s : String}

theorem authorities_inline
    (given : Value.field cluster "certificate-authority-data" = .str s) (filled : s ≠ "") :
    authorities w cluster base = some <$> inlineAuthorities s := by
  have truthy : (Value.str s).truthy = true := by simpa [Value.truthy] using filled
  unfold authorities
  rw [given]
  dsimp only
  rw [if_pos truthy]

theorem authorities_inline_ok {trust : Option TrustSource}
    (given : Value.field cluster "certificate-authority-data" = .str s) (filled : s ≠ "") :
    authorities w cluster base = .ok trust ↔
      ∃ text, strictBytes s = .ok (Text.Utf8.ofString text) ∧ trust = some (.contents text) := by
  rw [authorities_inline given filled]
  constructor
  · intro h
    cases decoded : inlineAuthorities s with
    | error e =>
      rw [decoded] at h
      cases h
    | ok source =>
      rw [decoded] at h
      obtain rfl := Except.ok.inj h
      obtain ⟨bytes, text, strict, written, rfl⟩ := inlineAuthorities_ok.mp decoded
      obtain rfl := Text.Utf8.toString?_eq_some_iff.mp written
      exact ⟨text, strict, rfl⟩
  · rintro ⟨text, strict, rfl⟩
    have decoded : inlineAuthorities s = .ok (.contents text) :=
      inlineAuthorities_ok.mpr ⟨_, text, strict, Text.Utf8.toString?_eq_some_iff.mpr rfl, rfl⟩
    rw [decoded]
    rfl

/-- What stands for bytes has characters of the alphabet, padding and blanks only. -/
theorem alphabet_of_strict {bytes : List UInt8} (h : strictBytes s = .ok bytes) :
    ∀ c ∈ s.toList, Text.Base64.InAlphabet c ∨ c = '=' ∨ Text.isBlank c = true := by
  intro c member
  cases blank : Text.isBlank c with
  | true => exact .inr (.inr rfl)
  | false =>
    have kept : c ∈ (Text.squeeze s).toList := Text.mem_squeeze.mpr ⟨member, blank⟩
    rcases Text.Base64.decode_alphabet h c kept with letter | pad
    · exact .inl letter
    · exact .inr (.inl pad)

variable {p : Profile}

theorem encodes_of_bytes {trust : Option TrustSource} {text : String} {bytes : List UInt8}
    (contents : trust = some (.contents text)) (written : Failure.bytesOf text = .ok bytes) :
    Encodes trust := by
  intro text' contents'
  rw [contents] at contents'
  obtain rfl := TrustSource.contents.inj (Option.some.inj contents')
  exact bytesOf_ok_iff.mp ⟨bytes, written⟩

/-- The file that a client reads its authorities from holds the bytes of their text. -/
theorem delivered_authorities {session : Session} {actions : List Action} {c : Configuration}
    {text : String} {bytes : List UInt8} (undisturbed : session.Undisturbed actions p)
    (contents : p.trust = some (.contents text)) (written : Failure.bytesOf text = .ok bytes)
    (builds : (session.run actions).Builds p c (.build p)) :
    Reaches (session.run (actions ++ [.build p])).store c.authorities bytes := by
  obtain ⟨_, backs⟩ := undisturbed.backs builds.built.1
  rw [bytesOf_eq written]
  exact (backs.authorities text contents).2

/-- Authorities given inline are those whose UTF-8 the text stands for, or an error. Every profile
of the cluster trusts the authorities that were written so, and every client reads their bytes. -/
theorem inline_authorities_exact
    (given : Value.field cluster "certificate-authority-data" = .str s) (filled : s ≠ "") :
    (∀ text, authorities w cluster base = .ok (some (.contents text)) ↔
      strictBytes s = .ok (Text.Utf8.ofString text)) ∧
    ((∃ e, authorities w cluster base = .error e) ∨
      ∃ text, authorities w cluster base = .ok (some (.contents text)) ∧
        ∀ c ∈ s.toList, Text.Base64.InAlphabet c ∨ c = '=' ∨ Text.isBlank c = true) ∧
    ∀ text bytes, Failure.bytesOf text = .ok bytes →
      Text.squeeze s = Text.Base64.ofBytes bytes →
      authorities w cluster base = .ok (some (.contents text)) ∧
      ∀ d context userAgent p, selected? d context "clusters" "cluster" = some cluster →
        (resolve w d context userAgent).result = .ok p →
        p.trust = some (.contents text) ∧
        ∀ (session : Session) actions, session.Undisturbed actions p →
          (∀ c, (session.run actions).Builds p c (.build p) →
            Reaches (session.run (actions ++ [.build p])).store c.authorities bytes) ∧
          ∀ e, (build (session.run actions).store p).2 = .error e →
            ∃ certificate privateKey, p.credentials = .pem certificate privateKey ∧
              (decodeMaterial certificate = .error e ∨ ∃ first,
                decodeMaterial certificate = .ok first ∧ decodeMaterial privateKey = .error e) := by
  refine ⟨fun text => ?_, ?_, fun text bytes written wrapped => ?_⟩
  · rw [authorities_inline_ok given filled]
    constructor
    · rintro ⟨text', strict, same⟩
      obtain rfl := TrustSource.contents.inj (Option.some.inj same)
      exact strict
    · exact fun strict => ⟨text, strict, rfl⟩
  · cases read : authorities w cluster base with
    | error e => exact .inl ⟨e, rfl⟩
    | ok trust =>
      obtain ⟨text, strict, rfl⟩ := (authorities_inline_ok given filled).mp read
      exact .inr ⟨text, rfl, alphabet_of_strict strict⟩
  · obtain rfl := bytesOf_eq written
    have accepted (base : FilePath) : authorities w cluster base = .ok (some (.contents text)) :=
      (authorities_inline_ok given filled).mpr ⟨text, strictBytes_of_squeeze wrapped, rfl⟩
    refine ⟨accepted base, fun d context userAgent p selected resolved => ?_⟩
    have trusted := resolved_trust selected resolved
    rw [accepted] at trusted
    have contents : p.trust = some (.contents text) := (Except.ok.inj trusted).symm
    refine ⟨contents, fun session actions undisturbed => ⟨fun c builds => ?_, fun e failed => ?_⟩⟩
    · exact delivered_authorities undisturbed contents written builds
    · exact build_error failed (encodes_of_bytes contents written)

/-- A cluster with a file and with inline authorities, whose base64 text is broken by blanks. -/
def wrappedCluster : Entries :=
  [(.str "server", .str "https://h"), (.str "certificate-authority", .str "/ca.pem"),
    (.str "certificate-authority-data", .str "w6\u00a0k\n= ")]

def wrappedDocument : Document :=
  .single (.str "c") wrappedCluster [(.str "token", .str "t")]

def wrappedProfile : Profile :=
  { endpoint := "https://h", credentials := .header "Bearer t", trust := some (.contents "\u00e9"),
    userAgent := "ua", verify := true, impersonate := .null, groups := [] }

def wrappedSteps : Steps :=
  { selected := [(.str "cluster", .str "k"), (.str "user", .str "u")]
    clusterName := .str "k"
    cluster := wrappedCluster
    userName := .str "u"
    user := [(.str "token", .str "t")]
    groups := []
    trust := some (.contents "\u00e9")
    credentials := .header "Bearer t"
    method := .token
    checked := wrappedProfile }

theorem wrappedCluster_given :
    Value.field wrappedCluster "certificate-authority-data" = .str "w6\u00a0k\n= " := by
  cbv

theorem wrappedDocument_result :
    (resolve {} wrappedDocument .null (.str "ua")).result = .ok wrappedProfile := by
  have strict : strictBytes "w6\u00a0k\n= " = .ok (Text.Utf8.ofString "\u00e9") := by cbv
  have complete : wrappedSteps.Complete {} wrappedDocument .null (.str "ua") :=
    { named := by cbv
      found := by cbv
      taken :=
        { cluster := by cbv
          user := by cbv
          server := by cbv
          groups := by cbv
          trust := (authorities_inline_ok wrappedCluster_given (by simp)).mpr ⟨_, strict, rfl⟩
          credentials := by cbv
          checked := by cbv } }
  have profile : wrappedSteps.profile = wrappedProfile := by cbv
  have shown : Failure.textOf (contextName wrappedDocument .null) = .ok "c" := by cbv
  rw [resolve_of_complete complete shown, profile]

theorem wrapped_authorities_delivered :
    let session : Session := {}
    (resolve {} wrappedDocument .null (.str "ua")).result = .ok wrappedProfile ∧
      ∃ c, session.Builds wrappedProfile c (.build wrappedProfile) ∧
        Reaches (session.run [.build wrappedProfile]).store c.authorities [0xC3, 0xA9] := by
  intro session
  have written : Failure.bytesOf "\u00e9" = .ok [0xC3, 0xA9] := by cbv
  have wrapped : Text.squeeze "w6\u00a0k\n= " = Text.Base64.ofBytes [0xC3, 0xA9] := by cbv
  have selected : selected? wrappedDocument .null "clusters" "cluster" = some wrappedCluster := by
    cbv
  obtain ⟨_, _, keeps⟩ :=
    @inline_authorities_exact {} _ wrappedDocument.path _ wrappedCluster_given (by simp)
  obtain ⟨_, delivers⟩ := keeps _ _ written wrapped
  obtain ⟨_, delivered⟩ := delivers _ _ _ _ selected wrappedDocument_result
  have undisturbed : session.Undisturbed [] wrappedProfile := by
    refine ⟨rfl, by simp, ?_⟩
    unfold KeyStore.CollisionFree
    decide +kernel
  obtain ⟨reaches, _⟩ := delivered session [] undisturbed
  obtain ⟨c, built⟩ := build_succeeds {} (p := wrappedProfile) (fun _ _ pem => by cases pem)
    (encodes_of_bytes rfl written)
  obtain ⟨builds, _⟩ := undisturbed.backs built
  exact ⟨wrappedDocument_result, c, builds, reaches c builds⟩

end ClusterAccess.Kubeconfig
