import ClusterAccess.Fault.Failure
import ClusterAccess.Operator.Builder
import ClusterAccess.Settings.EnvFile
import ClusterAccess.Settings.Options
import ClusterAccess.Text.LetterCase

/-!
# Settings of the process

Every setting has a name under which it is looked up: among the values given in code, then in the
environment, then in files of variables, where letter case does not count unless an option says so.
What is found nowhere has a default.
-/

namespace ClusterAccess

inductive ConnectionMode
  | auto
  | inCluster
  | kubeconfig
  deriving DecidableEq, Repr

def ConnectionMode.word : ConnectionMode → String
  | .auto => "auto"
  | .inCluster => "in-cluster"
  | .kubeconfig => "kubeconfig"

def ConnectionMode.check : Value → Check ConnectionMode
  | .str "auto" => .ok .auto
  | .str "in-cluster" => .ok .inCluster
  | .str "kubeconfig" => .ok .kubeconfig
  | _ => Check.refuse .literalError

structure Settings where
  operatorName : String
  watchNamespace : String
  serverPort : Int
  exposeMetrics : Bool
  exposeHealth : Bool
  logLevel : String
  jsonLogs : Bool
  userAgent : String
  connectionMode : ConnectionMode
  kubeconfigPath : String
  kubeContext : String
  deriving Repr

namespace Settings

def defaultUserAgent : String := "kube-operator/0.1.0"

def initial : Settings :=
  { operatorName := "kube-operator"
    watchNamespace := ""
    serverPort := OperatorConfig.defaultServerPort
    exposeMetrics := true
    exposeHealth := true
    logLevel := "INFO"
    jsonLogs := true
    userAgent := defaultUserAgent
    connectionMode := .auto
    kubeconfigPath := ""
    kubeContext := "" }

def withoutByteOrderMark : List Char → List Char
  | '\ufeff' :: rest => rest
  | cs => cs

def fileVariables (w : World) (file : Value) : Except Failure (List (String × Option String)) := do
  let path ← w.namedPath file
  if ← (w.isFile path).mapError Failure.file then
    let bytes ← (w.read path).mapError Failure.file
    match Text.Utf8.decode bytes with
    | some cs =>
      pure (EnvFile.assignments w.environment? (Text.unifyLineEnds (withoutByteOrderMark cs)))
    | none => .error .undecodable
  else pure []

structure Sources where
  options : Options
  given : List (Value × Value)
  environment : List (String × Option String)
  /-- The variables of all files, those of later files last. -/
  files : List (String × Option String)

def Sources.last? (s : Sources) (entries : List (String × Option String)) (variableName : String) :
    Option String :=
  let entry := entries.reverse.find? fun e =>
    !(s.options.ignoresEmpty && e.2 == some "") &&
      if s.options.caseCounts then e.1 == variableName
      else Text.lower e.1 == Text.lower variableName
  (entry.map Prod.snd).join

def spells (name : String) : Value → Bool
  | .str key => Text.lower key == name
  | _ => false

def firstOf (entries : List (Value × Value)) (name : String) : Option Value :=
  (entries.find? fun e => spells name e.1).map Prod.snd

/-- The value of a setting: given under its variable's name or another spelling of it, in the
environment, or in the files. -/
def Sources.find? (s : Sources) (variableName : String) : Option Value :=
  ((Value.field? s.given variableName).or (firstOf s.given (Text.lower variableName))).or
    (((s.last? s.environment variableName).or (s.last? s.files variableName)).map Value.str)

def Sources.read {α : Type} (s : Sources) (variableName : String) (default : α)
    (check : Value → Check α) : Check α :=
  match s.find? variableName with
  | some v => Check.within (.field variableName) (check v)
  | none => .ok default

def check (s : Sources) : Check Settings :=
  Check.also (Check.also (Check.also (Check.also (Check.also (Check.also (Check.also (Check.also
    (Check.also (Check.also
      ((s.read "OPERATOR_NAME" initial.operatorName Lax.text).map Settings.mk)
      (s.read "WATCH_NAMESPACE" initial.watchNamespace Lax.text))
      (s.read "SERVER_PORT" initial.serverPort Lax.integer))
      (s.read "EXPOSE_METRICS" initial.exposeMetrics Lax.boolean))
      (s.read "EXPOSE_HEALTH" initial.exposeHealth Lax.boolean))
      (s.read "LOG_LEVEL" initial.logLevel Lax.text))
      (s.read "JSON_LOGS" initial.jsonLogs Lax.boolean))
      (s.read "USER_AGENT" initial.userAgent Lax.text))
      (s.read "CONNECTION_MODE" initial.connectionMode ConnectionMode.check))
      (s.read "KUBECONFIG_PATH" initial.kubeconfigPath Lax.text))
      (s.read "KUBE_CONTEXT" initial.kubeContext Lax.text)

def load (w : World) (given : List (Value × Value)) : Except Failure Settings := do
  let options ← Options.ofGiven given
  let files ← options.files.mapM (fileVariables w)
  let environment := w.environment.map fun v => (v.1, some v.2)
  let sources : Sources :=
    { options := options, given := given, environment := environment, files := files.flatten }
  (check sources).mapError Failure.invalid

/-- The namespace to watch, none for all of them. -/
def namespaceName (s : Settings) : Option String :=
  let name := Text.trim s.watchNamespace
  if name = "" then none else some name

def operatorConfig (s : Settings) (parent : ResourceKind) : OperatorConfig :=
  let config := (((OperatorConfig.initial s.operatorName parent).withServerPort (.int s.serverPort))
    |>.withExposeMetrics (.bool s.exposeMetrics)) |>.withExposeHealth (.bool s.exposeHealth)
  match s.namespaceName with
  | some name => config.withinNamespace (.str name)
  | none => config

end Settings
end ClusterAccess
