import ClusterAccess.Connection.Strategy
import ClusterAccess.Operator.Config

/-!
# Names and defaults

The version of the library, the texts that it looks for, and its defaults, under the names by which
other programs refer to them.
-/

namespace ClusterAccess.Constants

def version : String := "0.1.0"

/-- A message with a place for a name. -/
def template (before after : String) : Value := .str (before ++ "'\x7b\x7d'" ++ after)

def all : List (String × Value) :=
  [("DEFAULT_TRACKING_LABEL_NAME", .str OperatorConfig.defaultTrackingLabel),
    ("DEFAULT_OWNERSHIP_LABEL_NAME", .str OperatorConfig.defaultOwnershipLabel),
    ("SERVICE_ACCOUNT_TOKEN_PATH", .str ServiceAccount.tokenPath),
    ("SERVICE_ACCOUNT_CA_PATH", .str ServiceAccount.authoritiesPath),
    ("API_SERVER_HOSTNAME", .str ServiceAccount.serverName),
    ("IN_CLUSTER_ENV_VAR", .str Connection.inClusterVariable),
    ("KUBECONFIG_ENV_VAR", .str Kubeconfig.listVariable),
    ("DEFAULT_KUBECONFIG_PATH", .str Kubeconfig.defaultPath),
    ("DEFAULT_SERVER_PORT", .int OperatorConfig.defaultServerPort),
    ("DEFAULT_USER_AGENT", .str Settings.defaultUserAgent),
    ("AUTHORIZATION_HEADER", .str Profile.authorizationHeader),
    ("IMPERSONATE_USER_HEADER", .str Profile.impersonateUserHeader),
    ("IMPERSONATE_GROUP_HEADER", .str Profile.impersonateGroupHeader),
    ("ERROR_KUBECONFIG_NOT_FOUND", template "Kubeconfig file " " does not exist"),
    ("ERROR_CONTEXT_NOT_FOUND", template "Context " " not found in kubeconfig"),
    ("ERROR_CLUSTER_NOT_FOUND", template "Cluster " " not found in kubeconfig"),
    ("ERROR_USER_NOT_FOUND", template "User " " not found in kubeconfig")]

end ClusterAccess.Constants
