import ClusterAccess.Fault.Failure

/-!
# Faults from named arguments

A fault of each rank takes its own arguments; a message is always required, and a category where
the rank does not fix it.
-/

namespace ClusterAccess.Fault

def signature : Rank → Signature
  | .operator =>
    { function := "OperatorError.__init__"
      required := ["message", "category"]
      optional := ["retryable", "delay", "user_action", "cause"] }
  | .configuration =>
    { function := "ConfigurationError.__init__"
      required := ["message"]
      optional := ["retryable", "user_action", "cause"] }
  | .kubeconfig =>
    { function := "KubeConfigError.__init__"
      required := ["message"]
      optional := ["path", "context", "user_action", "cause"] }

def ofBound (rank : Rank) (bound : Signature.Bound) (cause : Option Failure) : Fault :=
  let given (name : String) (default : Value) : Value := (bound.lookup name).getD default
  let message := given "message" .null
  let userAction := given "user_action" .null
  match rank with
  | .operator =>
    { rank := .operator
      message := message
      category := given "category" .null
      retryable := given "retryable" (.bool true)
      delay := given "delay" (.int FaultOf.defaultDelay)
      userAction := userAction
      cause := cause }
  | .configuration =>
    FaultOf.configuration message (given "retryable" (.bool false)) userAction cause
  | .kubeconfig =>
    FaultOf.kubeconfig message (given "path" .null) (given "context" .null) userAction cause

def ofArguments (rank : Rank) (arguments : List (String × Value)) (cause : Option Failure) :
    Except Failure Fault :=
  match (signature rank).bind [] arguments with
  | .ok bound => .ok (ofBound rank bound cause)
  | .error e => .error (.call e)

end ClusterAccess.Fault
