import ClusterAccess.Document.Knot
import ClusterAccess.Fault.Failure

/-!
# Named entries

Clusters, users and contexts stand in lists of maps with a name each. `find` gives the item of the
first entry whose name is the one looked for.
-/

namespace ClusterAccess.Kubeconfig

abbrev Entries := List (Value × Value)

/-- Whether a list element is a map whose name is the same as the given one. A missing name counts
as null. -/
def isNamed (name v : Value) : Option Entries :=
  match v.untied with
  | .map es => if (Value.field es "name").same name then some es else none
  | _ => none

/-- The elements of a section; a section that does not count as given has none. -/
def elements (document : Entries) (sectionName : String) : Except Failure (List Value) :=
  match ((Value.field document sectionName).orElse (.list [])).untied with
  | .list xs => .ok xs
  | _ => .error (Failure.kubeconfig ("'" ++ sectionName ++ "' must be a list"))

/-- The item of an entry; one that does not count as given is empty. -/
def item (entry : Entries) (itemKey : String) (name : Value) : Except Failure Entries :=
  match ((Value.field entry itemKey).orElse (.map [])).untied with
  | .map es => .ok es
  | _ => do
    let name ← Failure.textOf name
    .error (Failure.kubeconfig (itemKey ++ " '" ++ name ++ "' must be a mapping"))

/-- The item of the first entry that carries the name, if there is such an entry. -/
def find (document : Entries) (sectionName itemKey : String) (name : Value) :
    Except Failure (Option Entries) := do
  match (← elements document sectionName).findSome? (isNamed name) with
  | none => pure none
  | some entry => some <$> item entry itemKey name

end ClusterAccess.Kubeconfig
