import ClusterAccess.Proofs.Connection.Delivery
import ClusterAccess.Proofs.Resolution.Ranks

/-!
# A certificate and a key from files

A user who names two files, and nothing above them, authenticates with their bytes: a client reads
the same bytes, the certificate's from a file for certificates and the key's from one for keys
(`key_files_delivered`).
-/

namespace ClusterAccess.Kubeconfig

open Connection

/-- A value names a file, and the file has these bytes. -/
structure Reads (w : World) (base : FilePath) (v : Value) (bytes : List UInt8) : Prop where
  given : v.truthy = true
  read : ∃ p, referencedPath w base v = .ok p ∧ readReferenced w p = .ok bytes

/-- The files that a user names for its certificate and its key, with nothing that outranks them. -/
structure FilePair (w : World) (user : Entries) (base : FilePath) (certificate key : List UInt8) :
    Prop where
  token : (Value.field user "token").truthy = false
  tokenFile : (Value.field user "tokenFile").truthy = false
  certificateData : (Value.field user "client-certificate-data").truthy = false
  keyData : (Value.field user "client-key-data").truthy = false
  certificate : Reads w base (Value.field user "client-certificate") certificate
  key : Reads w base (Value.field user "client-key") key

variable {w : World} {user : Entries} {name : Value} {base : FilePath} {v : Value}
  {certificate key bytes : List UInt8}

theorem readsFile_of_reads {α : Type} (h : Reads w base v bytes) :
    ∃ p, ∀ f : FilePath → List UInt8 → Except Failure α, readsFile w base v f = f p bytes := by
  obtain ⟨p, named, read⟩ := h.read
  refine ⟨p, fun f => ?_⟩
  rw [readsFile_of_path named, read]
  rfl

theorem reads_of_named {text : String} {p : FilePath} (filled : text ≠ "")
    (named : referencedPath w base (.str text) = .ok p) (read : readReferenced w p = .ok bytes) :
    Reads w base (.str text) bytes :=
  ⟨by simpa [Value.truthy] using filled, p, named, read⟩

theorem material_of_reads {kind : String}
    (data : (Value.field user (kind ++ "-data")).truthy = false)
    (h : Reads w base (Value.field user kind) bytes) :
    material w user kind base = .ok (.str (Text.Base64.ofBytes bytes)) := by
  obtain ⟨p, reads⟩ := readsFile_of_reads h
  rw [material_eq, data, if_neg Bool.false_ne_true, if_pos h.given, reads]

theorem truthy_ofBytes_iff {bytes : List UInt8} :
    (Value.str (Text.Base64.ofBytes bytes)).truthy = true ↔ bytes ≠ [] := by
  constructor
  · rintro given rfl
    cases given
  · intro filled
    simpa [Value.truthy] using ofBytes_ne_empty filled

/-- With two files, the search goes on from their base64 texts. -/
theorem FilePair.credentials (h : FilePair w user base certificate key) :
    credentials w user name base = certifiedOr w user name base
      (.str (Text.Base64.ofBytes certificate)) (.str (Text.Base64.ofBytes key)) := by
  have token : ¬ Configures w user base .token := by
    unfold Configures
    rw [h.token]
    exact Bool.false_ne_true
  have tokenFile : ¬ Configures w user base .tokenFile := by
    unfold Configures
    rw [h.tokenFile]
    exact Bool.false_ne_true
  rw [credentials_of_material token tokenFile, material_of_reads h.certificateData h.certificate,
    material_of_reads h.keyData h.key, Traced.lift_ok_bind, Traced.lift_ok_bind]

theorem FilePair.credentials_filled (h : FilePair w user base certificate key)
    (filled : certificate ≠ []) (filled' : key ≠ []) :
    (Kubeconfig.credentials w user name base).result = .ok
      (.pem (Text.Base64.ofBytes certificate) (Text.Base64.ofBytes key), .clientCertificate) := by
  rw [h.credentials]
  unfold certifiedOr
  rw [truthy_ofBytes_iff.mpr filled, truthy_ofBytes_iff.mpr filled', checkMaterial_text]
  rfl

/-! ### Delivery -/

variable {p : Profile} {session : Session} {actions : List Action} {c : Configuration}

/-- A configuration for written material has the certificate's bytes in a file for certificates and
the key's bytes in a file for keys, also if these are the same bytes. -/
theorem delivered_pair (undisturbed : session.Undisturbed actions p)
    (pem : p.credentials =
      .pem (Text.Base64.ofBytes certificate) (Text.Base64.ofBytes key))
    (builds : (session.run actions).Builds p c (.build p)) :
    c.authorization = none ∧
      c.certificate = some (.stored (Digest.sha256Hex certificate ++ ".crt")) ∧
      Reaches (session.run (actions ++ [.build p])).store c.certificate certificate ∧
      c.privateKey = some (.stored (Digest.sha256Hex key ++ ".key")) ∧
      Reaches (session.run (actions ++ [.build p])).store c.privateKey key := by
  obtain ⟨_, backs⟩ := undisturbed.backs builds.built.1
  obtain ⟨_, _, credentials, _⟩ := build_ok builds.built.1
  rw [pem] at credentials
  obtain ⟨header, first, second, decoded, decoded', refers, refers'⟩ := credentials
  obtain rfl := (standsFor_ofBytes certificate).unique decoded
  obtain rfl := (standsFor_ofBytes key).unique decoded'
  obtain ⟨first', second', decoded, decoded', reaches, reaches'⟩ := backs.pem _ _ pem
  obtain rfl := decoded.unique (standsFor_ofBytes _)
  obtain rfl := decoded'.unique (standsFor_ofBytes _)
  exact ⟨header, refers, reaches, refers', reaches'⟩

theorem decodes_pair (pem : p.credentials =
      .pem (Text.Base64.ofBytes certificate) (Text.Base64.ofBytes key)) :
    Decodes p.credentials := by
  intro first second same
  rw [pem] at same
  obtain ⟨rfl, rfl⟩ := Credentials.pem.inj same
  exact ⟨isMaterial_ofBytes certificate, isMaterial_ofBytes key⟩

/-- A certificate and a key in files reach every client byte by byte. -/
theorem key_files_delivered {d : Document} {context userAgent : Value}
    (selected : selected? d context "users" "user" = some user)
    (files : FilePair w user d.path.parent certificate key)
    (filled : certificate ≠ []) (filled' : key ≠ [])
    (h : (resolve w d context userAgent).result = .ok p) :
    p.credentials = .pem (Text.Base64.ofBytes certificate) (Text.Base64.ofBytes key) ∧
    ∀ (session : Session) actions, session.Undisturbed actions p →
      (∀ c, (session.run actions).Builds p c (.build p) →
        c.authorization = none ∧
        c.certificate = some (.stored (Digest.sha256Hex certificate ++ ".crt")) ∧
        Reaches (session.run (actions ++ [.build p])).store c.certificate certificate ∧
        c.privateKey = some (.stored (Digest.sha256Hex key ++ ".key")) ∧
        Reaches (session.run (actions ++ [.build p])).store c.privateKey key) ∧
      (Encodes p.trust → ∃ c, (session.run actions).Builds p c (.build p)) := by
  obtain ⟨_, found⟩ := resolved_credentials selected h
  rw [files.credentials_filled filled filled'] at found
  have pem : p.credentials = .pem (Text.Base64.ofBytes certificate) (Text.Base64.ofBytes key) :=
    (Prod.mk.inj (Except.ok.inj found)).1.symm
  refine ⟨pem, fun session actions undisturbed => ⟨fun c builds => ?_, fun encodes => ?_⟩⟩
  · exact delivered_pair undisturbed pem builds
  · obtain ⟨c, built⟩ := build_succeeds {} (decodes_pair pem) encodes
    exact ⟨c, (undisturbed.backs built).1⟩

/-- Surroundings in which the certificate and the key are the same byte. -/
def sameWorld : World :=
  { directory := ["srv"]
    files := [(["srv", "crt"], .bytes [97]), (["etc", "pki", "key"], .bytes [97])] }

theorem sameWorld_files : FilePair sameWorld keyUser keyDocument.path.parent [97] [97] := by
  have certificate : Value.field keyUser "client-certificate" = .str "crt" := by cbv
  have key : Value.field keyUser "client-key" = .str "/etc/pki/key" := by cbv
  refine ⟨by cbv, by cbv, by cbv, by cbv, ?_, ?_⟩
  · rw [certificate]
    exact reads_of_named (p := ⟨"", ["crt"]⟩) (by decide) (by cbv) (by cbv)
  · rw [key]
    exact reads_of_named (p := ⟨"/", ["etc", "pki", "key"]⟩) (by decide) (by cbv) (by cbv)

theorem same_bytes_delivered :
    let session : Session := {}
    let built := session.run [.build (inlineProfile "YQ==" "YQ==")]
    (resolve sameWorld keyDocument .null (.str "ua")).result =
        .ok (inlineProfile "YQ==" "YQ==") ∧
      ∃ c : Configuration, Reaches built.store c.certificate [97] ∧
        Reaches built.store c.privateKey [97] ∧
        c.certificate ≠ c.privateKey := by
  intro session built
  have resolved : (resolve sameWorld keyDocument .null (.str "ua")).result =
      .ok (inlineProfile "YQ==" "YQ==") := by cbv
  have selected : selected? keyDocument .null "users" "user" = some keyUser := by cbv
  have undisturbed : session.Undisturbed [] (inlineProfile "YQ==" "YQ==") := by
    refine ⟨rfl, by simp, ?_⟩
    unfold KeyStore.CollisionFree
    decide +kernel
  obtain ⟨_, delivers⟩ :=
    key_files_delivered selected sameWorld_files (by decide) (by decide) resolved
  obtain ⟨delivered, builds⟩ := delivers session [] undisturbed
  obtain ⟨c, builds⟩ := builds fun _ contents => by cases contents
  obtain ⟨_, crt, reaches, key, reaches'⟩ := delivered c builds
  refine ⟨resolved, c, reaches, reaches', ?_⟩
  rw [crt, key]
  simp

end ClusterAccess.Kubeconfig
