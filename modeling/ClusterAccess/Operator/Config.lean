import ClusterAccess.Document.Display
import ClusterAccess.Json.Writer
import ClusterAccess.Operator.Policy

/-!
# Operator configurations

The kind that an operator watches, the kinds of its children and their policies, and the settings of
its process. A setter gives a new configuration and stores its argument as it is.
-/

namespace ClusterAccess

structure OperatorConfig where
  parent : ResourceKind
  children : Children
  namespaceName : Value
  name : String
  trackingLabel : Value
  ownershipLabel : Value
  serverPort : Value
  exposeMetrics : Value
  exposeHealth : Value
  deriving Repr

namespace OperatorConfig

def defaultTrackingLabel : String := "app.kubernetes.io/instance"
def defaultOwnershipLabel : String := "app.kubernetes.io/managed-by"
def defaultServerPort : Int := 8080

def initial (name : String) (parent : ResourceKind) : OperatorConfig :=
  { parent := parent
    children := []
    namespaceName := .null
    name := name
    trackingLabel := .str defaultTrackingLabel
    ownershipLabel := .str defaultOwnershipLabel
    serverPort := .int defaultServerPort
    exposeMetrics := .bool true
    exposeHealth := .bool true }

def withinNamespace (c : OperatorConfig) (v : Value) : OperatorConfig :=
  { c with namespaceName := v }

def withTrackingLabel (c : OperatorConfig) (v : Value) : OperatorConfig :=
  { c with trackingLabel := v }

def withOwnershipLabel (c : OperatorConfig) (v : Value) : OperatorConfig :=
  { c with ownershipLabel := v }

def withServerPort (c : OperatorConfig) (v : Value) : OperatorConfig :=
  { c with serverPort := v }

def withExposeMetrics (c : OperatorConfig) (v : Value) : OperatorConfig :=
  { c with exposeMetrics := v }

def withExposeHealth (c : OperatorConfig) (v : Value) : OperatorConfig :=
  { c with exposeHealth := v }

def withChild (c : OperatorConfig) (k : ResourceKind) (u : UpdateStrategy) : OperatorConfig :=
  { c with children := c.children.put k u }

/-- Configurations are the same if all their parts are; the order of children does not count. -/
def same (c d : OperatorConfig) : Bool :=
  c.parent == d.parent && c.children.same d.children && c.namespaceName.same d.namespaceName &&
    c.name == d.name && c.trackingLabel.same d.trackingLabel &&
    c.ownershipLabel.same d.ownershipLabel && c.serverPort.same d.serverPort &&
    c.exposeMetrics.same d.exposeMetrics && c.exposeHealth.same d.exposeHealth

def describeChildren (cs : Children) : String :=
  "mappingproxy(" ++
    Value.bracketed "\x7b" "\x7d" (cs.map fun c => c.1.describe ++ ": " ++ c.2.describe) ++ ")"

def typeLabel : String := "OperatorConfig"

def fieldTexts (c : OperatorConfig) : List (String × String) :=
  [("parent", c.parent.describe), ("child_types", describeChildren c.children),
    ("namespace", c.namespaceName.quoted), ("operator_name", Text.Quoted.ofString c.name),
    ("tracking_label_name", c.trackingLabel.quoted),
    ("ownership_label_name", c.ownershipLabel.quoted), ("server_port", c.serverPort.quoted),
    ("expose_metrics", c.exposeMetrics.quoted), ("expose_health", c.exposeHealth.quoted)]

def describe (c : OperatorConfig) : String :=
  Value.describeFields typeLabel c.fieldTexts

def kindMembers (k : ResourceKind) : Value :=
  Value.ofFields
    [("group", .str k.group), ("version", .str k.version), ("kind", .str k.kind),
      ("plural_kind", .str k.plural)]

/-- The members of the children in a dump, named by the display texts of their kinds. -/
def childMembers (cs : Children) : Value :=
  Value.ofFields
    (cs.map fun c => (c.1.display, Value.ofFields [("update_strategy", .str c.2.word)]))

/-- A truth value in a field for numbers, as a number. -/
def asNumber : Value → Value
  | .bool b => .int (if b then 1 else 0)
  | v => v

def dump (c : OperatorConfig) : Value :=
  Value.ofFields
    [("parent", kindMembers c.parent), ("child_types", childMembers c.children),
      ("namespace", c.namespaceName), ("operator_name", .str c.name),
      ("tracking_label_name", c.trackingLabel), ("ownership_label_name", c.ownershipLabel),
      ("server_port", asNumber c.serverPort), ("expose_metrics", c.exposeMetrics),
      ("expose_health", c.exposeHealth)]

def dumpJson (c : OperatorConfig) : Except Json.WriteError String :=
  Json.write Json.compact c.dump

end OperatorConfig
end ClusterAccess
