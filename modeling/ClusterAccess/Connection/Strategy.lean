import ClusterAccess.Connection.KeyStore
import ClusterAccess.Kubeconfig.Load
import ClusterAccess.ServiceAccount
import ClusterAccess.Settings.Basic

/-!
# The way to the API server

A process reaches the API server as a service account of its cluster or through a configuration
file. The way is chosen once, from the settings and one environment variable; when it fails the
other one is not tried.
-/

namespace ClusterAccess.Connection

inductive Strategy
  | serviceAccount
  | kubeconfig
  deriving DecidableEq, Repr

/-- The variable that every process inside a cluster sees. -/
def inClusterVariable : String := "KUBERNETES_SERVICE_HOST"

def detect (w : World) : Strategy :=
  if (w.environment? inClusterVariable).getD "" = "" then .kubeconfig else .serviceAccount

def strategy (w : World) (s : Settings) : Strategy :=
  match s.connectionMode with
  | .auto => detect w
  | .inCluster => .serviceAccount
  | .kubeconfig => .kubeconfig

def Strategy.mode : Strategy → ConnectionMode
  | .serviceAccount => .inCluster
  | .kubeconfig => .kubeconfig

def detectedRecord (chosen : Strategy) : Logging.Record :=
  { level := Logging.debug
    logger := loggerName
    message := "Connection mode auto-detected as " ++ chosen.mode.word }

/-- Where the token and the authorities of a service account stand. -/
structure AccountFiles where
  token : Value := .str ServiceAccount.tokenPath
  authorities : Value := .str ServiceAccount.authoritiesPath
  deriving Repr

/-- A text that is given unless it is empty. -/
def given (s : String) : Value :=
  if s = "" then .null else .str s

def profileBy (w : World) (s : Settings) (files : AccountFiles) : Strategy → Traced Profile
  | .serviceAccount =>
    ServiceAccount.profile w (.str s.userAgent) files.token files.authorities
  | .kubeconfig =>
    Kubeconfig.resolveFile w (given s.kubeconfigPath) (given s.kubeContext) (.str s.userAgent)

def resolve (w : World) (s : Settings) (files : AccountFiles) : Traced Profile := do
  let chosen := strategy w s
  if s.connectionMode = .auto then Traced.log (detectedRecord chosen)
  profileBy w s files chosen

end ClusterAccess.Connection
