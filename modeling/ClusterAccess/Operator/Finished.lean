import ClusterAccess.Operator.Builder
import ClusterAccess.Validation.Finished

/-!
# Finished operator configurations

Edits of a finished configuration pass its attributes on. A dump is the JSON text of the fields
alone, but attributes can stand in its way.
-/

namespace ClusterAccess

instance : Fielded OperatorConfig where
  typeLabel := OperatorConfig.typeLabel
  fieldTexts := OperatorConfig.fieldTexts
  same := OperatorConfig.same
  plainNames :=
    ["operator_name", "namespace", "tracking_label_name", "ownership_label_name", "server_port",
      "expose_metrics", "expose_health"]
  structuredName := ("parent", "group")

def OperatorConfig.Edit.field : OperatorConfig.Edit → String
  | .namespaceName _ => "namespace"
  | .trackingLabel _ => "tracking_label_name"
  | .ownershipLabel _ => "ownership_label_name"
  | .serverPort _ => "server_port"
  | .exposeMetrics _ => "expose_metrics"
  | .exposeHealth _ => "expose_health"
  | .child _ _ => "child_types"

namespace Finished

def edit (x : Finished OperatorConfig) (e : OperatorConfig.Edit) :
    Except Failure (Finished OperatorConfig) :=
  x.derive e.field (x.value.apply e)

/-- The greatest number of levels of a value in a dump. -/
def maxLevels : Nat := 255

/-- What keeps a configuration from being dumped: an obstacle in its fields, or one in the names of
its attributes. -/
def obstacle? (x : Finished OperatorConfig) : Option Json.Obstacle :=
  let names := x.attributes.storage.entries.map fun e => (e.1, Value.null)
  (Json.obstacle? (maxLevels + 1) x.value.dump).or (Json.obstacleOfEntries? maxLevels names)

def dumpText (x : Finished OperatorConfig) : Except Failure String :=
  match x.attributes.storage.find? "__pydantic_serializer__", x.obstacle? with
  | some v, _ => .error (.misuse (.lacking "to_json" v))
  | none, some o => .error (.undumpable o)
  | none, none => x.value.dumpJson.mapError Failure.ofWriting

end Finished
end ClusterAccess
