import ClusterAccess.Fault.Failure

/-!
# Finding the configuration file

An explicit path is the only candidate. Without one the candidates are the entries of an
environment variable, and only if it lists none, a file below the home directory. The first
candidate that is a file is taken.
-/

namespace ClusterAccess.Kubeconfig

/-- The variable that lists configuration files, separated by colons. -/
def listVariable : String := "KUBECONFIG"

/-- The file that is taken when nothing else is given. -/
def defaultPath : String := "~/.kube/config"

def isFile (w : World) (p : FilePath) : Except Failure Bool :=
  (w.isFile p).mapError Failure.file

def missing (p : FilePath) : Failure :=
  .fault (FaultOf.kubeconfig (.str ("Kubeconfig file '" ++ p.text ++ "' does not exist"))
    (.str p.text))

def only (w : World) (candidate : Value) : Except Failure FilePath := do
  let p ← w.namedPath candidate
  if ← isFile w p then pure p else .error (missing p)

def firstFile (w : World) : List String → Except Failure (Option FilePath)
  | [] => .ok none
  | s :: rest => do
    let p ← w.namedPath (.str s)
    if ← isFile w p then pure (some p) else firstFile w rest

/-- The entries of a list of files; empty ones do not count. -/
def listed (value : String) : List String :=
  (Text.split ':' value).filter fun s => s != ""

/-- The configuration file for an explicit path, or the one that is discovered. -/
def locate (w : World) (path : Value) : Except Failure FilePath :=
  if path.truthy then only w path
  else do
    let value := (w.environment? listVariable).getD ""
    let entries := listed value
    match ← firstFile w entries with
    | some p => pure p
    | none =>
      if entries.isEmpty then only w (.str defaultPath)
      else
        .error (.fault (FaultOf.kubeconfig
          (.str ("None of the files listed in " ++ listVariable ++ " exist")) (.str value)))

end ClusterAccess.Kubeconfig
