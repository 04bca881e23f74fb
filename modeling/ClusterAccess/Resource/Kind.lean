import ClusterAccess.Text.Quoted

/-!
# Kinds of resources

A resource kind is named by group, version, kind and plural, compared field by field. An empty
group is the core group, whose name is left out of the API version.
-/

namespace ClusterAccess

/-- A reference to a kind as objects carry it: API version and kind. -/
structure KindReference where
  apiVersion : String
  kind : String
  deriving DecidableEq, Repr

structure ResourceKind where
  group : String
  version : String
  kind : String
  plural : String
  deriving DecidableEq, Repr

namespace KindReference

def display (r : KindReference) : String :=
  r.apiVersion ++ "/" ++ r.kind

def describe (r : KindReference) : String :=
  "K8sTypeRef(api_version=" ++ Text.Quoted.ofString r.apiVersion ++ ", kind=" ++
    Text.Quoted.ofString r.kind ++ ")"

end KindReference

namespace ResourceKind

/-- The version alone in the core group, otherwise group and version joined by a slash. -/
def apiVersion (k : ResourceKind) : String :=
  if k.group = "" then k.version else k.group ++ "/" ++ k.version

def apiPath (k : ResourceKind) : String :=
  k.apiVersion ++ "/" ++ k.plural

def display (k : ResourceKind) : String :=
  k.apiPath

def reference (k : ResourceKind) : KindReference :=
  { apiVersion := k.apiVersion, kind := k.kind }

def describe (k : ResourceKind) : String :=
  "K8sType(group=" ++ Text.Quoted.ofString k.group ++ ", version=" ++
    Text.Quoted.ofString k.version ++ ", kind=" ++ Text.Quoted.ofString k.kind ++
    ", plural_kind=" ++ Text.Quoted.ofString k.plural ++ ")"

/-! ### Built-in kinds -/

def pod : ResourceKind := ⟨"", "v1", "Pod", "pods"⟩
def service : ResourceKind := ⟨"", "v1", "Service", "services"⟩
def configMap : ResourceKind := ⟨"", "v1", "ConfigMap", "configmaps"⟩
def secret : ResourceKind := ⟨"", "v1", "Secret", "secrets"⟩
def serviceAccount : ResourceKind := ⟨"", "v1", "ServiceAccount", "serviceaccounts"⟩
def persistentVolumeClaim : ResourceKind :=
  ⟨"", "v1", "PersistentVolumeClaim", "persistentvolumeclaims"⟩
def deployment : ResourceKind := ⟨"apps", "v1", "Deployment", "deployments"⟩
def statefulSet : ResourceKind := ⟨"apps", "v1", "StatefulSet", "statefulsets"⟩
def daemonSet : ResourceKind := ⟨"apps", "v1", "DaemonSet", "daemonsets"⟩
def job : ResourceKind := ⟨"batch", "v1", "Job", "jobs"⟩
def ingress : ResourceKind := ⟨"networking.k8s.io", "v1", "Ingress", "ingresses"⟩
def role : ResourceKind := ⟨"rbac.authorization.k8s.io", "v1", "Role", "roles"⟩
def roleBinding : ResourceKind :=
  ⟨"rbac.authorization.k8s.io", "v1", "RoleBinding", "rolebindings"⟩

end ResourceKind
end ClusterAccess
