import ClusterAccess.Fault.Failure
import ClusterAccess.Fault.Traced
import ClusterAccess.Profile.Validation

/-!
# Profiles of service accounts

Inside a cluster a token and the authorities stand in well-known files. The token is read as text,
the authorities are only looked for.
-/

namespace ClusterAccess.ServiceAccount

def tokenPath : String := "/var/run/secrets/kubernetes.io/serviceaccount/token"

def authoritiesPath : String := "/var/run/secrets/kubernetes.io/serviceaccount/ca.crt"

/-- The name under which the API server is known inside a cluster. -/
def serverName : String := "kubernetes.default.svc"

def endpoint : String := "https://" ++ serverName

def loggerName : String := "kube_operator.utils.service_account"

/-- The token in a file, with line ends unified. -/
def readToken (w : World) (path : Value) : Except Failure String := do
  let p ← FilePath.ofValue path
  Failure.checkSurrogates (fun n => !Text.Utf16.isByteMark n) p.text
  if World.hasNul p then .error .nullCharacter
  else
    let bytes ← (w.read p).mapError Failure.file
    match Text.Utf8.decode bytes with
    | some cs => pure (String.ofList (Text.unifyLineEnds cs))
    | none => .error .undecodable

/-- The authorities at a path, if anything stands there. -/
def findAuthorities (w : World) (path : Value) : Except Failure (Option TrustSource) := do
  let p ← FilePath.ofValue path
  if ← (w.present p).mapError Failure.file then
    match Lax.text path with
    | .ok s => pure (some (.file s))
    | .error issues => .error (.invalid issues)
  else pure none

def missingRecord (path : Value) : Logging.Record :=
  { level := Logging.debug
    logger := loggerName
    message := "No service account CA at " ++ path.display ++ ", using system trust store" }

def loadedRecord : Logging.Record :=
  { level := Logging.debug
    logger := loggerName
    message := "Loaded in-cluster service account configuration for " ++ endpoint
    fields := [("api_server", .str endpoint), ("auth_method", .str "service_account")] }

def profile (w : World) (userAgent token authorities : Value) : Traced Profile := do
  let text ← Traced.lift (readToken w token)
  let trust ← Traced.lift (findAuthorities w authorities)
  if trust.isNone then Traced.log (missingRecord authorities)
  Traced.log loadedRecord
  match Profile.assemble (.ok endpoint) (.ok (Credentials.bearer text)) (.ok trust)
      (Check.within (.field "user_agent") (Lax.text userAgent)) (.ok true) (.ok .null) (.ok []) with
  | .ok p => pure p
  | .error issues => Traced.fail (.invalid issues)

end ClusterAccess.ServiceAccount
