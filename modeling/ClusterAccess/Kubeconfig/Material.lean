import ClusterAccess.Fault.Traced
import ClusterAccess.Kubeconfig.Locate
import ClusterAccess.Kubeconfig.Section
import ClusterAccess.Profile.Validation

/-!
# Credentials and authorities of an entry

A cluster names its authorities inline or by file. A user may name several ways to authenticate;
they are tried in a fixed order and the first that is configured decides.
-/

namespace ClusterAccess.Kubeconfig

inductive AuthMethod
  | token
  | tokenFile
  | clientCertificate
  | basic
  | plugin
  deriving DecidableEq, Repr

def AuthMethod.label : AuthMethod → String
  | .token => "token"
  | .tokenFile => "token_file"
  | .clientCertificate => "client_certificate"
  | .basic => "basic"
  | .plugin => "plugin"

/-- The path that a value names, below a base folder unless it is rooted. -/
def referencedPath (w : World) (base : FilePath) (v : Value) : Except Failure FilePath := do
  pure (base.join (← w.namedPath v))

def readReferenced (w : World) (p : FilePath) : Except Failure (List UInt8) := do
  Failure.checkSurrogates (fun n => !Text.Utf16.isByteMark n) p.text
  match World.hasNul p, w.read p with
  | true, _ => .error .nullCharacter
  | false, .ok bs => .ok bs
  | false, .error e =>
    .error (Failure.kubeconfig ("Cannot read " ++ p.text ++ ": " ++ e.message) (some (.file e)))

/-- Inline authorities: base64 of UTF-8 text, with blanks anywhere. -/
def inlineAuthorities (s : String) : Except Failure TrustSource :=
  let bad (e : Failure) : Failure :=
    Failure.kubeconfig "certificate-authority-data is not valid base64 PEM" (some e)
  let cs := (Text.squeeze s).toList
  if cs.any fun c => 0x80 ≤ c.toNat then .error .foreignBase64
  else
    match Text.Base64.decode .strict cs with
    | .error e => .error (bad (.base64 e))
    | .ok bytes =>
      match Text.Utf8.toString? bytes with
      | some text => .ok (.contents text)
      | none => .error (bad .undecodable)

/-- The authorities of a cluster; inline data wins over a file. -/
def authorities (w : World) (cluster : Entries) (base : FilePath) :
    Except Failure (Option TrustSource) :=
  let data := Value.field cluster "certificate-authority-data"
  let file := Value.field cluster "certificate-authority"
  if data.truthy then
    match data with
    | .str s => some <$> inlineAuthorities s
    | _ => .error (Failure.kubeconfig "certificate-authority-data must be a string")
  else if file.truthy then do
    let p ← referencedPath w base file
    pure (some (.file p.text))
  else pure none

/-- The token in the file that a user names, without blanks at its ends. -/
def tokenFromFile (w : World) (base : FilePath) (name : Value) : Except Failure Credentials := do
  let p ← referencedPath w base name
  let bytes ← readReferenced w p
  match Text.Utf8.toString? bytes with
  | some text => pure (Credentials.bearer (Text.trim text))
  | none =>
    .error (Failure.kubeconfig ("tokenFile " ++ p.text ++ " is not valid UTF-8")
      (some .undecodable))

/-- Base64 material given inline, or the base64 text of a file; null if neither is configured. -/
def material (w : World) (user : Entries) (name : String) (base : FilePath) :
    Except Failure Value :=
  let data := Value.field user (name ++ "-data")
  let file := Value.field user name
  if data.truthy then .ok data
  else if file.truthy then do
    let p ← referencedPath w base file
    let bytes ← readReferenced w p
    pure (.str (Text.Base64.ofBytes bytes))
  else .ok .null

def checkMaterial (certificate key : Value) : Except Failure Credentials :=
  let entries :=
    [(Value.str "certificate_base64", certificate), (Value.str "private_key_base64", key)]
  match Credentials.checkPem entries with
  | .ok c => .ok c
  | .error issues => .error (.invalid issues)

def basicHeader (user password : Value) : Except Failure Credentials := do
  let user ← Failure.textOf user
  let password ← Failure.textOf password
  let bytes ← Failure.bytesOf (user ++ ":" ++ password)
  pure (.header ("Basic " ++ Text.Base64.ofBytes bytes))

def pluginCredentials (w : World) (context : Value) (base : FilePath) : Traced Credentials := do
  Traced.call { context := context, folder := base.text }
  match w.plugin with
  | .fails m =>
    Traced.fail (Failure.kubeconfig ("Authentication plugin failed: " ++ m) (some (.plugin m)))
  | .silent => Traced.fail (Failure.kubeconfig "Authentication plugin produced no bearer token")
  | .header h =>
    if h = "" then Traced.fail (Failure.kubeconfig "Authentication plugin produced no bearer token")
    else pure (.header h)

/-- The credentials of a user by the first method that is configured. -/
def credentials (w : World) (user : Entries) (context : Value) (base : FilePath) :
    Traced (Credentials × AuthMethod) := do
  let token := Value.field user "token"
  let tokenFile := Value.field user "tokenFile"
  if token.truthy then
    pure (Credentials.bearer (← Traced.lift (Failure.textOf token)), .token)
  else if tokenFile.truthy then
    pure (← Traced.lift (tokenFromFile w base tokenFile), .tokenFile)
  else
    let certificate ← Traced.lift (material w user "client-certificate" base)
    let key ← Traced.lift (material w user "client-key" base)
    if certificate.truthy && key.truthy then
      pure (← Traced.lift (checkMaterial certificate key), .clientCertificate)
    else if certificate.truthy || key.truthy then
      Traced.fail
        (Failure.kubeconfig "client-certificate and client-key must be configured together")
    else
      let name := Value.field user "username"
      let password := Value.field user "password"
      if name.truthy && password.truthy then
        pure (← Traced.lift (basicHeader name password), .basic)
      else if (Value.field? user "exec").isSome || (Value.field? user "auth-provider").isSome then
        pure (← pluginCredentials w context base, .plugin)
      else Traced.fail (Failure.kubeconfig "User has no supported credentials")

end ClusterAccess.Kubeconfig
