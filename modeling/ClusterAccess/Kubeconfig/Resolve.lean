import ClusterAccess.Kubeconfig.Material
import ClusterAccess.Profile.Derivation

/-!
# Resolving a document

A document, a context and the surroundings give a profile. The context names a cluster and a user;
their entries are looked up, the authorities and the credentials read, and the values checked.
Every fault after the context was selected carries the path of the document and the context.
-/

namespace ClusterAccess.Kubeconfig

structure Document where
  path : FilePath
  entries : Entries
  deriving Repr

/-- The entry that a context refers to; a reference left out is the empty name. -/
def referenced (document : Entries) (context : Entries) (sectionName key kind : String) :
    Except Failure (Value × Entries) := do
  let name := (Value.field? context key).getD (.str "")
  match ← find document sectionName key name with
  | some es => pure (name, es)
  | none =>
    let shown ← Failure.textOf name
    .error (Failure.kubeconfig (kind ++ " '" ++ shown ++ "' not found in kubeconfig"))

/-- Groups that a user acts for; a value that does not count as given names none. -/
def actingGroups (user : Entries) (userName : Value) : Except Failure (List Value) :=
  match ((Value.field user "as-groups").orElse (.list [])).untied with
  | .list xs => .ok xs
  | _ => do
    let name ← Failure.textOf userName
    .error (Failure.kubeconfig ("as-groups of user '" ++ name ++ "' must be a list"))

def invalidValues : Failure → Failure
  | .invalid issues =>
    Failure.kubeconfig ("Invalid kubeconfig values: " ++ (Failure.invalid issues).message)
      (some (.invalid issues))
  | e => e

def profile (server : Value) (creds : Credentials) (trust : Option TrustSource) (userAgent : Value)
    (user : Entries) (groups : List Value) : Except Failure Profile :=
  match Profile.assemble
      (Check.within (.field "api_server_endpoint") (Lax.text server))
      (.ok creds) (.ok trust)
      (Check.within (.field "user_agent") (Lax.text userAgent))
      (.ok true)
      (Check.within (.field "impersonate") (Profile.checkUser (Value.field user "as")))
      (Check.within (.field "impersonate_groups") (Profile.checkGroups (.list groups))) with
  | .ok p => .ok p
  | .error issues => .error (.invalid issues)

/-- Turn verification off if the cluster asks for it, and say so. Only the truth value counts. -/
def applyVerification (cluster : Entries) (p : Profile) : Traced Profile :=
  match Value.field cluster "insecure-skip-tls-verify" with
  | .bool true => p.trustingAnyone
  | _ => pure p

def resolveContext (w : World) (document : Document) (context : Entries) (contextName : Value)
    (userAgent : Value) : Traced (Profile × AuthMethod) := do
  let base := document.path.parent
  let (clusterName, cluster) ←
    Traced.lift (referenced document.entries context "clusters" "cluster" "Cluster")
  let (userName, user) ←
    Traced.lift (referenced document.entries context "users" "user" "User")
  let server := Value.field cluster "server"
  if !server.truthy then
    let name ← Traced.lift (Failure.textOf clusterName)
    Traced.fail (Failure.kubeconfig ("Cluster '" ++ name ++ "' has no server"))
  else
    let groups ← Traced.lift (actingGroups user userName)
    let (p, method) ← Traced.mapFailure invalidValues do
      let trust ← Traced.lift (authorities w cluster base)
      let (creds, method) ← credentials w user contextName base
      let p ← Traced.lift (profile server creds trust userAgent user groups)
      pure (p, method)
    pure (← applyVerification cluster p, method)

/-- The fault with the path of the document, and no other detail. -/
def withPath (path : FilePath) : Failure → Failure
  | .fault f => .fault (FaultOf.kubeconfig (.str f.message.display) (.str path.text))
  | e => e

/-- The fault with the path of the document and the selected context, if the context has a text. -/
def situate (path : FilePath) (contextName : Value) : Failure → Failure
  | .fault f =>
    match Failure.textOf contextName with
    | .ok _ =>
      .fault (FaultOf.kubeconfig (.str f.message.display) (.str path.text) contextName f.userAction
        f.cause)
    | .error e => e
  | e => e

def loadedRecord (path : FilePath) (contextName : Value) (shownName : String) (p : Profile)
    (method : AuthMethod) : Logging.Record :=
  { level := Logging.debug
    logger := "kube_operator.utils.kubeconfig"
    message := "Loaded kubeconfig context " ++ shownName ++ " for " ++ p.endpoint
    fields := [("kubeconfig_path", .str path.text), ("context", contextName),
      ("api_server", .str p.endpoint), ("auth_method", .str method.label)] }

/-- The profile of a document for the given context, or for its current context. -/
def resolve (w : World) (document : Document) (context : Value) (userAgent : Value) :
    Traced Profile := do
  let contextName := context.orElse (Value.field document.entries "current-context")
  if !contextName.truthy then
    Traced.fail (.fault (FaultOf.kubeconfig
      (.str "No context selected and current-context is not set") (.str document.path.text)))
  else
    let found ← Traced.mapFailure (withPath document.path)
      (Traced.lift (find document.entries "contexts" "context" contextName))
    match found with
    | none =>
      let name ← Traced.lift (Failure.textOf contextName)
      Traced.fail (.fault (FaultOf.kubeconfig
        (.str ("Context '" ++ name ++ "' not found in kubeconfig"))
        (.str document.path.text)))
    | some entries =>
      let (p, method) ← Traced.mapFailure (situate document.path contextName)
        (resolveContext w document entries contextName userAgent)
      let name ← Traced.lift (Failure.textOf contextName)
      Traced.log (loadedRecord document.path contextName name p method)
      pure p

end ClusterAccess.Kubeconfig
