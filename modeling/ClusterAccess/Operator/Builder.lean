import ClusterAccess.Fault.Failure
import ClusterAccess.Operator.Validation

/-!
# Building operator configurations step by step

An edit sets one part of a configuration. Edits are applied in order, each to the result of the one
before; the children of a finished configuration are never changed in place.
-/

namespace ClusterAccess.OperatorConfig

inductive Edit
  | namespaceName (v : Value)
  | trackingLabel (v : Value)
  | ownershipLabel (v : Value)
  | serverPort (v : Value)
  | exposeMetrics (v : Value)
  | exposeHealth (v : Value)
  | child (k : ResourceKind) (u : UpdateStrategy)
  deriving Repr

def apply (c : OperatorConfig) : Edit → OperatorConfig
  | .namespaceName v => c.withinNamespace v
  | .trackingLabel v => c.withTrackingLabel v
  | .ownershipLabel v => c.withOwnershipLabel v
  | .serverPort v => c.withServerPort v
  | .exposeMetrics v => c.withExposeMetrics v
  | .exposeHealth v => c.withExposeHealth v
  | .child k u => c.withChild k u

def applyAll (c : OperatorConfig) (edits : List Edit) : OperatorConfig :=
  edits.foldl apply c

/-- An assignment into the children of a finished configuration is refused. -/
def assignChild (_ : OperatorConfig) (_ : ResourceKind) (_ : UpdateStrategy) :
    Except Failure OperatorConfig :=
  .error .readOnlyChildren

def strategyOf (word : String) : Except Failure UpdateStrategy :=
  match UpdateStrategy.ofWord? word with
  | some u => .ok u
  | none => .error (.notAStrategy word)

end ClusterAccess.OperatorConfig
