import ClusterAccess.Document.Display

/-!
# Structured faults

A fault is a failure prepared for whoever operates the program: a message, a category, whether a
retry may help and after what delay, and what to do about it. Faults in a cluster configuration
also name the file and the selected context, and carry both at the end of the message.
-/

namespace ClusterAccess

/-- How specific a fault is; every fault counts as all the broader ranks too. -/
inductive Rank
  | operator
  | configuration
  | kubeconfig
  deriving DecidableEq, Repr

/-- A fault whose cause is of type `κ`. Values given by the caller are kept as they are. -/
structure FaultOf (κ : Type) where
  rank : Rank
  message : Value
  category : Value
  retryable : Value
  delay : Value
  userAction : Value
  cause : Option κ
  path : Value := .null
  context : Value := .null

namespace FaultOf

variable {κ : Type}

/-- Seconds to wait before a retry. -/
def defaultDelay : Int := 30

def configurationAdvice : String := "Review and correct configuration"

def kubeconfigAdvice : String :=
  "Check the kubeconfig file, KUBECONFIG and the selected context"

/-- A fault in the configuration, not worth a retry. -/
def configuration (message : Value) (retryable : Value := .bool false) (userAction : Value := .null)
    (cause : Option κ := none) : FaultOf κ :=
  { rank := .configuration
    message := message
    category := .str "configuration"
    retryable := retryable
    delay := .int defaultDelay
    userAction := userAction.orElse (.str configurationAdvice)
    cause := cause }

/-- A message followed by a note, if the noted value counts as given. -/
def annotate (message : Value) (opening : String) (note : Value) (closing : String) : Value :=
  if note.truthy then .str (message.display ++ opening ++ note.display ++ closing) else message

def kubeconfig (message : Value) (path context userAction : Value := .null)
    (cause : Option κ := none) : FaultOf κ :=
  { rank := .kubeconfig
    message := annotate (annotate message " (context: " context ")") " [" path "]"
    category := .str "kubeconfig"
    retryable := .bool false
    delay := .int defaultDelay
    userAction := userAction.orElse (.str kubeconfigAdvice)
    cause := cause
    path := path
    context := context }

/-- The message, and on a line of its own what to do. -/
def text (f : FaultOf κ) : String :=
  if f.userAction.truthy then
    f.message.display ++ "\nAction required: " ++ f.userAction.display
  else f.message.display

def isTemporary (f : FaultOf κ) : Bool :=
  f.retryable.truthy

end FaultOf

def Rank.chain : Rank → List Rank
  | .operator => [.operator]
  | .configuration => [.configuration, .operator]
  | .kubeconfig => [.kubeconfig, .configuration, .operator]

def Rank.label : Rank → String
  | .operator => "OperatorError"
  | .configuration => "ConfigurationError"
  | .kubeconfig => "KubeConfigError"

end ClusterAccess
