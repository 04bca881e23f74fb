import ClusterAccess.Document.Display
import ClusterAccess.Logging.Level

/-!
# Connection profiles

A profile is all that a client needs to talk to an API server: the endpoint, credentials, the
authorities to trust, and whether certificates are verified at all. Impersonation is stored as
given, since profiles derived later do not check it.
-/

namespace ClusterAccess

inductive Credentials
  /-- The value of the authorization header. -/
  | header (value : String)
  /-- A client certificate and its private key, both as base64 text. -/
  | pem (certificate privateKey : String)
  deriving DecidableEq, Repr

inductive TrustSource
  | file (path : String)
  | contents (text : String)
  deriving DecidableEq, Repr

structure Profile where
  endpoint : String
  credentials : Credentials
  trust : Option TrustSource
  userAgent : String
  verify : Bool
  impersonate : Value
  groups : List Value
  deriving Repr

namespace Credentials

def bearer (token : String) : Credentials :=
  .header ("Bearer " ++ token)

/-- The credentials with their field names; secrets are left out. -/
def describe : Credentials → String
  | .header _ => "HeaderCredentials(type='header')"
  | .pem certificate _ =>
    "PemCredentials(type='pem', certificate_base64=" ++ Text.Quoted.ofString certificate ++ ")"

end Credentials

def TrustSource.describe : TrustSource → String
  | .file path => "CAFile(type='file', path=" ++ Text.Quoted.ofString path ++ ")"
  | .contents text =>
    "CAContents(type='contents', contents=" ++ Text.Quoted.ofString text ++ ")"

namespace Profile

def authorizationHeader : String := "Authorization"
def impersonateUserHeader : String := "Impersonate-User"
def impersonateGroupHeader : String := "Impersonate-Group"

/-- The headers of every request, in order; a group header for each group. -/
def authHeaders (p : Profile) : List (String × Value) :=
  (match p.credentials with
    | .header value => [(authorizationHeader, .str value)]
    | .pem _ _ => []) ++
  (if p.impersonate.truthy then [(impersonateUserHeader, p.impersonate)] else []) ++
  p.groups.map fun g => (impersonateGroupHeader, g)

def withImpersonation (p : Profile) (user : Value) (groups : List Value) : Profile :=
  { p with impersonate := user, groups := groups }

/-- The record that announces a profile without certificate verification. -/
def verificationWarning (p : Profile) : Logging.Record :=
  { level := Logging.warning
    logger := "kube_operator.models.client"
    message := "TLS certificate verification disabled for " ++ p.endpoint
    fields := [("api_server", .str p.endpoint)] }

/-- The profile without certificate verification; a warning must accompany it. -/
def withoutVerification (p : Profile) : Profile :=
  { p with verify := false }

def same (p q : Profile) : Bool :=
  p.endpoint == q.endpoint && p.credentials == q.credentials && p.trust == q.trust &&
    p.userAgent == q.userAgent && p.verify == q.verify && p.impersonate.same q.impersonate &&
    Value.sameList p.groups q.groups

def typeLabel : String := "ClientConfig"

/-- The fields with their texts; secrets are left out. -/
def fieldTexts (p : Profile) : List (String × String) :=
  [("api_server_endpoint", Text.Quoted.ofString p.endpoint),
    ("credentials", p.credentials.describe),
    ("ca_data", match p.trust with
      | none => Value.null.quoted
      | some t => t.describe),
    ("user_agent", Text.Quoted.ofString p.userAgent),
    ("verify_ssl_certs", (Value.bool p.verify).quoted), ("impersonate", p.impersonate.quoted),
    ("impersonate_groups", (Value.tuple p.groups).quoted)]

def describe (p : Profile) : String :=
  Value.describeFields typeLabel p.fieldTexts

end Profile
end ClusterAccess
