import ClusterAccess.Proofs.Connection.Building
import ClusterAccess.Proofs.Text.Base64
import ClusterAccess.Proofs.Trace

/-!
# Profiles that are ready to use

A profile is ready if a configuration can be built from it, with the bytes that its certificate and
key have by the rule for inline authorities. That is so exactly if both are ASCII and follow the
rule, and if the text of its authorities has bytes (`ready_iff`).
-/

namespace ClusterAccess.Connection

/-- The bytes of base64 text by the rule for inline authorities: blanks are dropped, and no other
character is skipped. -/
def strictBytes (text : String) : Except Text.Base64.Error (List UInt8) :=
  Text.Base64.decode .strict (Text.squeeze text).toList

/-- A configuration can be built from the profile, and the certificate and the key that are stored
for it are the bytes of their texts. -/
def Ready (store : KeyStore) (p : Profile) : Prop :=
  ∃ c, (build store p).2 = .ok c ∧
    ∀ certificate privateKey, p.credentials = .pem certificate privateKey →
      ∃ first second, strictBytes certificate = .ok first ∧ strictBytes privateKey = .ok second ∧
        Refers c.certificate (.certificate, first) ∧ Refers c.privateKey (.privateKey, second) ∧
        (build store p).1 =
          store.putAll ((.certificate, first) :: (.privateKey, second) :: trustPieces p.trust)

/-- Text of ASCII characters that has bytes by the rule for inline authorities. -/
structure IsMaterial (text : String) : Prop where
  ascii : ∀ c ∈ text.toList, c.toNat < 0x80
  strict : ∃ bytes, strictBytes text = .ok bytes

/-! ### Material -/

theorem standsFor_of_strict {text : String} {bytes : List UInt8}
    (ascii : ∀ c ∈ text.toList, c.toNat < 0x80) (strict : strictBytes text = .ok bytes) :
    StandsFor text bytes :=
  ⟨ascii, Text.Base64.decode_lenient strict⟩

/-- The base64 text of bytes stands for them, with blanks anywhere in it. -/
theorem strictBytes_of_squeeze {text : String} {bytes : List UInt8}
    (h : Text.squeeze text = Text.Base64.ofBytes bytes) : strictBytes text = .ok bytes := by
  unfold strictBytes
  rw [h]
  unfold Text.Base64.ofBytes
  rw [String.toList_ofList, Text.Base64.decode_encode]

theorem isMaterial_ofBytes (bytes : List UInt8) : IsMaterial (Text.Base64.ofBytes bytes) := by
  constructor
  · intro c member
    unfold Text.Base64.ofBytes at member
    rw [String.toList_ofList] at member
    exact (Text.Base64.encode_visible bytes c member).2
  · exact ⟨bytes, strictBytes_of_squeeze (Text.Base64.squeeze_ofBytes bytes)⟩

/-- What is written as base64 stands for the same bytes, of whatever number. -/
theorem standsFor_ofBytes (bytes : List UInt8) : StandsFor (Text.Base64.ofBytes bytes) bytes :=
  standsFor_of_strict (isMaterial_ofBytes bytes).ascii
    (strictBytes_of_squeeze (Text.Base64.squeeze_ofBytes bytes))

/-! ### Building -/

/-- Material of a profile that can be decoded. -/
def Decodes (creds : Credentials) : Prop :=
  ∀ certificate privateKey, creds = .pem certificate privateKey →
    IsMaterial certificate ∧ IsMaterial privateKey

def Encodes (trust : Option TrustSource) : Prop :=
  ∀ text, trust = some (.contents text) →
    Text.Utf8.surrogates? (fun _ => true) text.toList = none

theorem addAuthorities_succeeds (store : KeyStore) (c : Configuration)
    {trust : Option TrustSource} (encodes : Encodes trust) :
    ∃ c', (addAuthorities store c trust).2 = .ok c' := by
  rcases trust with _ | path | text
  · exact ⟨_, rfl⟩
  · exact ⟨_, rfl⟩
  · obtain ⟨bytes, written⟩ := bytesOf_ok_iff.mpr (encodes text rfl)
    dsimp only [addAuthorities]
    rw [written]
    exact ⟨_, rfl⟩

theorem build_succeeds (store : KeyStore) {p : Profile} (decodes : Decodes p.credentials)
    (encodes : Encodes p.trust) : ∃ c, (build store p).2 = .ok c := by
  unfold build
  cases kind : p.credentials with
  | header value => exact addAuthorities_succeeds _ _ encodes
  | pem certificate privateKey =>
    obtain ⟨⟨ascii, first, strict⟩, ascii', second, strict'⟩ := decodes certificate privateKey kind
    dsimp only [addCredentials]
    rw [decodeMaterial_ok_iff.mpr (standsFor_of_strict ascii strict),
      decodeMaterial_ok_iff.mpr (standsFor_of_strict ascii' strict')]
    exact addAuthorities_succeeds _ _ encodes

theorem ready_iff (store : KeyStore) (p : Profile) :
    Ready store p ↔ Decodes p.credentials ∧ Encodes p.trust := by
  constructor
  · rintro ⟨c, built, stored⟩
    obtain ⟨_, _, credentials, trust⟩ := build_ok built
    refine ⟨fun certificate privateKey pem => ?_, fun text given => ?_⟩
    · obtain ⟨first, second, strict, strict', _⟩ := stored certificate privateKey pem
      rw [pem] at credentials
      obtain ⟨_, _, _, stands, stands', _⟩ := credentials
      exact ⟨⟨stands.ascii, first, strict⟩, stands'.ascii, second, strict'⟩
    · rw [given] at trust
      obtain ⟨bytes, written, _⟩ := trust
      exact bytesOf_ok_iff.mp ⟨bytes, written⟩
  · rintro ⟨decodes, encodes⟩
    obtain ⟨c, built⟩ := build_succeeds store decodes encodes
    refine ⟨c, built, fun certificate privateKey pem => ?_⟩
    obtain ⟨⟨ascii, first, strict⟩, ascii', second, strict'⟩ := decodes certificate privateKey pem
    have stands := standsFor_of_strict ascii strict
    have stands' := standsFor_of_strict ascii' strict'
    obtain ⟨_, _, credentials, _⟩ := build_ok built
    rw [pem] at credentials
    obtain ⟨_, first', second', same, same', refers, refers'⟩ := credentials
    obtain rfl := stands.unique same
    obtain rfl := stands'.unique same'
    refine ⟨first, second, strict, strict', refers, refers', ?_⟩
    rw [build_store, pieces_pem pem stands stands']

end ClusterAccess.Connection
