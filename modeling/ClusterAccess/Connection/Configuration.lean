import ClusterAccess.Connection.KeyStore
import ClusterAccess.Connection.Strategy

/-!
# Client configurations

A profile is turned into the settings of a client: certificates and keys are decoded and stored as
files, a header becomes an authorization. What was stored before a failure stays stored. A client
adds headers to a configuration; it sends each header once, so it can act for one group at most.
-/

namespace ClusterAccess.Connection

/-- A file that a client reads: one that the profile names, or one in the store. -/
inductive FileReference
  | path (text : String)
  | stored (name : String)
  deriving DecidableEq, Repr

structure Configuration where
  host : String
  verify : Bool
  authorization : Option String := none
  certificate : Option FileReference := none
  privateKey : Option FileReference := none
  authorities : Option FileReference := none
  deriving DecidableEq, Repr

/-- The bytes of base64 text; characters outside the alphabet are skipped. -/
def decodeMaterial (text : String) : Except Failure (List UInt8) :=
  if text.toList.any fun c => 0x80 ≤ c.toNat then .error .foreignBase64
  else (Text.Base64.decode .lenient text.toList).mapError Failure.base64

def keep (store : KeyStore) (kind : Material) (contents : List UInt8) : KeyStore × FileReference :=
  (store.put kind contents, .stored (KeyStore.nameFor kind contents))

def addCredentials (store : KeyStore) (c : Configuration) :
    Credentials → KeyStore × Except Failure Configuration
  | .header value => (store, .ok { c with authorization := some value })
  | .pem certificate privateKey =>
    match decodeMaterial certificate with
    | .error e => (store, .error e)
    | .ok bytes =>
      let (store, certificate) := keep store .certificate bytes
      match decodeMaterial privateKey with
      | .error e => (store, .error e)
      | .ok bytes =>
        let (store, privateKey) := keep store .privateKey bytes
        (store, .ok { c with certificate := some certificate, privateKey := some privateKey })

def addAuthorities (store : KeyStore) (c : Configuration) :
    Option TrustSource → KeyStore × Except Failure Configuration
  | none => (store, .ok c)
  | some (.file path) => (store, .ok { c with authorities := some (.path path) })
  | some (.contents text) =>
    match Failure.bytesOf text with
    | .error e => (store, .error e)
    | .ok bytes =>
      let (store, authorities) := keep store .certificate bytes
      (store, .ok { c with authorities := some authorities })

def build (store : KeyStore) (p : Profile) : KeyStore × Except Failure Configuration :=
  match addCredentials store { host := p.endpoint, verify := p.verify } p.credentials with
  | (store, .error e) => (store, .error e)
  | (store, .ok c) => addAuthorities store c p.trust

/-- A client with the headers that it sends with every request. -/
structure Client where
  userAgent : String
  configuration : Configuration
  headers : List (String × Value)
  deriving Repr

def userAgentHeader : String := "User-Agent"

def clientHeaders (p : Profile) : List (String × Value) :=
  (userAgentHeader, .str p.userAgent) ::
    ((if p.impersonate.truthy then [(Profile.impersonateUserHeader, p.impersonate)] else []) ++
      p.groups.map fun g => (Profile.impersonateGroupHeader, g))

def tooManyGroups : Failure :=
  .fault (FaultOf.configuration
    (.str "The kubernetes client supports at most one impersonation group") (.bool false)
    (.str "Use a client that sends repeated Impersonate-Group headers"))

def clientRecord (p : Profile) : Logging.Record :=
  { level := Logging.debug
    logger := loggerName
    message := "Created Kubernetes API client for " ++ p.endpoint
    fields := [("api_server", .str p.endpoint)] }

def connect (store : KeyStore) (p : Profile) : KeyStore × Traced Client :=
  if 1 < p.groups.length then (store, Traced.fail tooManyGroups)
  else
    match build store p with
    | (store, .error e) => (store, Traced.fail e)
    | (store, .ok c) =>
      (store, do
        Traced.log (clientRecord p)
        pure { userAgent := p.userAgent, configuration := c, headers := clientHeaders p })

end ClusterAccess.Connection
