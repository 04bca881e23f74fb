import ClusterAccess.Operator.Config
import ClusterAccess.Resource.Validation

/-!
# Validation of operator configurations

A configuration is built from named values; every field that does not fit is reported in the order
of the fields.
-/

namespace ClusterAccess.OperatorConfig

def checkPolicyValue : Value → Check UpdateStrategy
  | .map entries => UpdateStrategy.checkPolicy entries
  | _ => Check.refuse .modelType

def keyStep : Value → Step
  | .str s => .field s
  | .int i => if 0 ≤ i then .index i.toNat else .field (Number.intText i)
  | v => .field v.quoted

def checkChild (entry : Value × Value) : Check (ResourceKind × UpdateStrategy) :=
  Check.also
    ((Check.within (keyStep entry.1) (Check.within (.field "[key]")
      (ResourceKind.checkValue entry.1))).map Prod.mk)
    (Check.within (keyStep entry.1) (checkPolicyValue entry.2))

def addChild (cs : Check Children) (entry : Value × Value) : Check Children :=
  Check.also (cs.map fun cs c => cs.put c.1 c.2) (checkChild entry)

def checkChildren : Value → Check Children
  | .map entries => entries.foldl addChild (.ok [])
  | _ => Check.refuse .mapType

def checkNamespace (v : Value) : Check Value :=
  (Lax.optionalText v).map fun
    | none => .null
    | some s => .str s

/-- A configuration from named values; names of no field are ignored. -/
def check (entries : List (Value × Value)) : Check OperatorConfig :=
  let text (name default : String) : Check Value :=
    (Lax.optional entries name default Lax.text).map Value.str
  let truth (name : String) : Check Value :=
    (Lax.optional entries name true Lax.boolean).map Value.bool
  Check.also (Check.also (Check.also (Check.also (Check.also (Check.also (Check.also (Check.also
    ((Lax.required entries "parent" ResourceKind.checkValue).map OperatorConfig.mk)
    (Lax.optional entries "child_types" [] checkChildren))
    (Lax.optional entries "namespace" .null checkNamespace))
    (Lax.required entries "operator_name" Lax.text))
    (text "tracking_label_name" defaultTrackingLabel))
    (text "ownership_label_name" defaultOwnershipLabel))
    ((Lax.optional entries "server_port" defaultServerPort Lax.integer).map Value.int))
    (truth "expose_metrics"))
    (truth "expose_health")

def ofName (name : Value) (parent : ResourceKind) : Check OperatorConfig :=
  check [(.str "operator_name", name), (.str "parent", .kind parent)]

end ClusterAccess.OperatorConfig
