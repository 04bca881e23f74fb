import ClusterAccess.Fault.Failure
import ClusterAccess.Validation.Attributes

/-!
# Finished values

A value that passed validation, with attributes beside its fields. It refuses assignments to its
fields. What is done with it is done with its fields, unless an attribute stands in the way.
-/

namespace ClusterAccess

class Fielded (α : Type) where
  typeLabel : String
  fieldTexts : α → List (String × String)
  same : α → α → Bool
  /-- The fields that are read first, all of which could hold any value. -/
  plainNames : List String
  /-- The field that is read next, and a member of it that no plain value has. -/
  structuredName : String × String

/-- A value that passed validation, with its attributes. -/
structure Finished (α : Type) where
  value : α
  attributes : Attributes := {}
  deriving Repr

namespace Finished

def ofValue {α : Type} (a : α) : Finished α :=
  { value := a }

/-- A value derived from a finished one by setting fields, of which the first is named. -/
def derive {α : Type} (x : Finished α) (field : String) (a : α) : Except Failure (Finished α) := do
  let attributes ← (x.attributes.derived field).mapError Failure.misuse
  pure { value := a, attributes := attributes }

section

open Fielded

def assign {α : Type} [Fielded α] (x : Finished α) (name : String) (v : Value) :
    Except Failure (Finished α) := do
  let attributes ← (x.attributes.set (typeLabel α) name v).mapError Failure.ofAssignment
  pure { x with attributes := attributes }

def same {α : Type} [Fielded α] (x y : Finished α) : Except Failure Bool :=
  (x.attributes.same y.attributes (Fielded.same x.value y.value)).mapError Failure.misuse

def describe {α : Type} [Fielded α] (x : Finished α) : Except Failure String :=
  (x.attributes.describe (typeLabel α) (fieldTexts x.value)).mapError Failure.misuse

/-- The value as it is shown, unless its storage was replaced: then the first field that is missing
there is reported, or else the first one that no plain value can stand for. -/
def shown {α : Type} [Fielded α] (x : Finished α) : Except Failure α :=
  let storage := x.attributes.storage
  if storage.dropped then
    let (name, member) := structuredName α
    match (plainNames α ++ [name]).find? fun name => (storage.find? name).isNone with
    | some name => .error (.misuse (.lacks name (typeLabel α)))
    | none => .error (.misuse (.lacking member ((storage.find? name).getD .null)))
  else .ok x.value

end

end Finished
end ClusterAccess
