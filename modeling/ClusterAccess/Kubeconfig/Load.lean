import ClusterAccess.Kubeconfig.Resolve
import ClusterAccess.Yaml.Tree

/-!
# Loading and resolving a file

The located file is read as UTF-8 and as YAML; its root must be a mapping. Faults name the path.
-/

namespace ClusterAccess.Kubeconfig

def loadFault (path : FilePath) (message : String) (cause : Option Failure := none) : Failure :=
  .fault (FaultOf.kubeconfig (.str message) (.str path.text) .null .null cause)

def parseDocument (path : FilePath) (source : Yaml.Source) : Except Failure Entries :=
  match Yaml.read source with
  | .ok v =>
    match v.untied with
    | .map es => .ok es
    | _ => .error (loadFault path "Kubeconfig must be a mapping")
  | .error .malformed =>
    .error (loadFault path ("Malformed kubeconfig: " ++ Failure.malformed.message)
      (some .malformed))
  | .error e => .error e

def loadFrom (w : World) (path : FilePath) : Except Failure Document :=
  match w.read path with
  | .error e =>
    .error (loadFault path ("Cannot read kubeconfig: " ++ e.message) (some (.file e)))
  | .ok bytes => do
    let es ← parseDocument path (Yaml.Source.ofBytes bytes)
    pure { path := path, entries := es }

def load (w : World) (path : Value) : Except Failure Document := do
  loadFrom w (← locate w path)

def resolveFile (w : World) (path context userAgent : Value) : Traced Profile := do
  let document ← Traced.lift (load w path)
  resolve w document context userAgent

end ClusterAccess.Kubeconfig
