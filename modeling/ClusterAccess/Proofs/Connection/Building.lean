import ClusterAccess.Connection.Configuration
import ClusterAccess.Proofs.Trace

/-!
# What building a configuration does

Building puts the material of a profile into the store and answers the same whatever the store
holds (`build_store`, `build_result`). `build_ok` says what a configuration refers to.
-/

namespace ClusterAccess.Connection

/-- ASCII text that stands for bytes in base64; characters outside the alphabet are skipped. -/
structure StandsFor (text : String) (bytes : List UInt8) : Prop where
  ascii : ∀ c ∈ text.toList, c.toNat < 0x80
  decoded : Text.Base64.decode .lenient text.toList = .ok bytes

theorem decodeMaterial_ok_iff {text : String} {bytes : List UInt8} :
    decodeMaterial text = .ok bytes ↔ StandsFor text bytes := by
  have plain_iff : (text.toList.any fun c => 0x80 ≤ c.toNat) = false ↔
      ∀ c ∈ text.toList, c.toNat < 0x80 := by simp
  unfold decodeMaterial
  cases plain : text.toList.any fun c => 0x80 ≤ c.toNat with
  | true =>
    constructor
    · intro h
      cases h
    · intro stands
      rw [plain_iff.mpr stands.ascii] at plain
      cases plain
  | false =>
    rw [if_neg Bool.false_ne_true, mapError_ok]
    exact ⟨fun decoded => ⟨plain_iff.mp plain, decoded⟩, StandsFor.decoded⟩

theorem StandsFor.unique {text : String} {first second : List UInt8} (h : StandsFor text first)
    (h' : StandsFor text second) : first = second :=
  Except.ok.inj (h.decoded.symm.trans h'.decoded)

/-- Material with its contents. -/
abbrev Piece := Material × List UInt8

/-- Store pieces one after the other. -/
def KeyStore.putAll (s : KeyStore) (pieces : List Piece) : KeyStore :=
  pieces.foldl (fun s piece => s.put piece.1 piece.2) s

theorem bytesOf_ok_iff {s : String} :
    (∃ bytes, Failure.bytesOf s = .ok bytes) ↔
      Text.Utf8.surrogates? (fun _ => true) s.toList = none := by
  unfold Failure.bytesOf Failure.checkSurrogates
  cases Text.Utf8.surrogates? (fun _ => true) s.toList with
  | none => simp [bind, Except.bind, pure, Except.pure]
  | some found => simp [bind, Except.bind]

theorem bytesOf_eq {s : String} {bytes : List UInt8} (h : Failure.bytesOf s = .ok bytes) :
    bytes = Text.Utf8.ofString s := by
  obtain ⟨_, _, h⟩ := result_bind_ok.mp h
  exact (Except.ok.inj h).symm

/-- The pieces of the authorities; a text with surrogates has no bytes to store. -/
def trustPieces : Option TrustSource → List Piece
  | some (.contents text) =>
    match Failure.bytesOf text with
    | .ok bytes => [(.certificate, bytes)]
    | .error _ => []
  | _ => []

/-- The pieces that are stored for a profile: those of the credentials up to the first that cannot
be decoded, and then those of the authorities. -/
def pieces (p : Profile) : List Piece :=
  match p.credentials with
  | .header _ => trustPieces p.trust
  | .pem certificate privateKey =>
    match decodeMaterial certificate, decodeMaterial privateKey with
    | .error _, _ => []
    | .ok first, .error _ => [(.certificate, first)]
    | .ok first, .ok second => (.certificate, first) :: (.privateKey, second) :: trustPieces p.trust

theorem pieces_pem {p : Profile} {certificate privateKey : String} {first second : List UInt8}
    (pem : p.credentials = .pem certificate privateKey) (stands : StandsFor certificate first)
    (stands' : StandsFor privateKey second) :
    pieces p = (.certificate, first) :: (.privateKey, second) :: trustPieces p.trust := by
  unfold pieces
  rw [pem]
  dsimp only
  rw [decodeMaterial_ok_iff.mpr stands, decodeMaterial_ok_iff.mpr stands']

theorem addAuthorities_store (store : KeyStore) (c : Configuration) (trust : Option TrustSource) :
    (addAuthorities store c trust).1 = store.putAll (trustPieces trust) := by
  cases trust with
  | none => rfl
  | some source =>
    cases source with
    | file path => rfl
    | contents text =>
      dsimp only [addAuthorities, trustPieces]
      cases Failure.bytesOf text <;> rfl

theorem addAuthorities_result (store : KeyStore) (c : Configuration)
    (trust : Option TrustSource) :
    (addAuthorities store c trust).2 = (addAuthorities {} c trust).2 := by
  cases trust with
  | none => rfl
  | some source =>
    cases source with
    | file path => rfl
    | contents text =>
      dsimp only [addAuthorities]
      cases Failure.bytesOf text <;> rfl

theorem build_store (store : KeyStore) (p : Profile) :
    (build store p).1 = store.putAll (pieces p) := by
  unfold build pieces
  cases p.credentials with
  | header value => exact addAuthorities_store _ _ _
  | pem certificate privateKey =>
    dsimp only [addCredentials]
    cases decodeMaterial certificate with
    | error e => rfl
    | ok first =>
      -- The certificate is stored by now, also if the key cannot be decoded.
      dsimp only [keep]
      cases decodeMaterial privateKey with
      | error e => rfl
      | ok second => exact addAuthorities_store _ _ _

/-- What building answers does not depend on the store. -/
theorem build_result (store : KeyStore) (p : Profile) : (build store p).2 = (build {} p).2 := by
  unfold build
  cases p.credentials with
  | header value => exact addAuthorities_result _ _ _
  | pem certificate privateKey =>
    dsimp only [addCredentials]
    cases decodeMaterial certificate with
    | error e => rfl
    | ok first =>
      dsimp only [keep]
      cases decodeMaterial privateKey with
      | error e => rfl
      | ok second =>
        exact (addAuthorities_result _ _ _).trans (addAuthorities_result _ _ _).symm

/-- A configuration that refers to a stored piece. -/
def Refers (reference : Option FileReference) (piece : Piece) : Prop :=
  reference = some (.stored (KeyStore.nameFor piece.1 piece.2))

def HasAuthorities (c : Configuration) : Option TrustSource → Prop
  | none => c.authorities = none
  | some (.file path) => c.authorities = some (.path path)
  | some (.contents text) => ∃ bytes,
      Failure.bytesOf text = .ok bytes ∧ Refers c.authorities (.certificate, bytes)

def HasCredentials (c : Configuration) : Credentials → Prop
  | .header value => c.authorization = some value ∧ c.certificate = none ∧ c.privateKey = none
  | .pem certificate privateKey => c.authorization = none ∧ ∃ first second,
      StandsFor certificate first ∧ StandsFor privateKey second ∧
      Refers c.certificate (.certificate, first) ∧ Refers c.privateKey (.privateKey, second)

theorem addAuthorities_ok {store : KeyStore} {c c' : Configuration} {trust : Option TrustSource}
    (h : (addAuthorities store c trust).2 = .ok c') (none : c.authorities = none) :
    HasAuthorities c' trust ∧ ∃ authorities, c' = { c with authorities := authorities } := by
  cases trust with
  | none =>
    obtain rfl := Except.ok.inj h
    exact ⟨none, _, rfl⟩
  | some source =>
    cases source with
    | file path =>
      obtain rfl := Except.ok.inj h
      exact ⟨rfl, _, rfl⟩
    | contents text =>
      dsimp only [addAuthorities] at h
      cases written : Failure.bytesOf text with
      | error e => rw [written] at h; cases h
      | ok bytes =>
        rw [written] at h
        obtain rfl := Except.ok.inj h
        exact ⟨⟨bytes, written, rfl⟩, _, rfl⟩

theorem addCredentials_ok {store : KeyStore} {c c' : Configuration} {creds : Credentials}
    (h : (addCredentials store c creds).2 = .ok c') (none : c.authorization = none)
    (noCertificate : c.certificate = .none) (noKey : c.privateKey = .none) :
    c'.host = c.host ∧ c'.verify = c.verify ∧ c'.authorities = c.authorities ∧
      HasCredentials c' creds := by
  cases creds with
  | header value =>
    obtain rfl := Except.ok.inj h
    exact ⟨rfl, rfl, rfl, rfl, noCertificate, noKey⟩
  | pem certificate privateKey =>
    dsimp only [addCredentials] at h
    cases first : decodeMaterial certificate with
    | error e => rw [first] at h; cases h
    | ok certificateBytes =>
      rw [first] at h
      dsimp only [keep] at h
      cases second : decodeMaterial privateKey with
      | error e => rw [second] at h; cases h
      | ok keyBytes =>
        rw [second] at h
        obtain rfl := Except.ok.inj h
        exact ⟨rfl, rfl, rfl, none, _, _, decodeMaterial_ok_iff.mp first,
          decodeMaterial_ok_iff.mp second, rfl, rfl⟩

theorem HasCredentials.frame {c : Configuration} {creds : Credentials}
    (h : HasCredentials c creds) (authorities : Option FileReference) :
    HasCredentials { c with authorities := authorities } creds := by
  cases creds <;> exact h

/-- A configuration has the endpoint, the flag, the credentials and the authorities of its
profile. -/
theorem build_ok {store : KeyStore} {p : Profile} {c : Configuration}
    (h : (build store p).2 = .ok c) :
    c.host = p.endpoint ∧ c.verify = p.verify ∧ HasCredentials c p.credentials ∧
      HasAuthorities c p.trust := by
  unfold build at h
  split at h
  · cases h
  · rename_i after first added
    obtain ⟨host, verify, noAuthorities, credentials⟩ :=
      addCredentials_ok (congrArg Prod.snd added) rfl rfl rfl
    obtain ⟨trust, authorities, rfl⟩ := addAuthorities_ok h noAuthorities
    exact ⟨host, verify, credentials.frame authorities, trust⟩

end ClusterAccess.Connection
