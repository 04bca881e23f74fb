import ClusterAccess.Document.Display

/-!
# Values used as something else

Why a value cannot be used as a sequence, a map or a function, or as an object with a certain
member.
-/

namespace ClusterAccess

inductive Misuse
  | noPlaces (found : Value)
  | missingPlace (place : Nat)
  | tooFewPlaces (found : Value)
  | noNames (found : Value)
  | missingName (name : String)
  | lacks (name typeLabel : String)
  | notAFunction (found : Value)
  /-- A text of so many characters where an entry of a map is expected. -/
  | notAnEntry (length : Nat)
  deriving Repr

namespace Misuse

def lacking (name : String) (found : Value) : Misuse :=
  .lacks name found.typeName

def message : Misuse → String
  | .noPlaces v => "'" ++ v.typeName ++ "' object is not subscriptable"
  | .missingPlace n => Number.natText n
  | .tooFewPlaces v =>
    match v with
    | .str _ => "string index out of range"
    | _ => "list index out of range"
  | .noNames v =>
    match v with
    | .str _ => "string indices must be integers, not 'str'"
    | _ => "list indices must be integers or slices, not str"
  | .missingName name => Text.Quoted.ofString name
  | .lacks name typeLabel => "'" ++ typeLabel ++ "' object has no attribute '" ++ name ++ "'"
  | .notAFunction v => "'" ++ v.typeName ++ "' object is not callable"
  | .notAnEntry n =>
    "dictionary update sequence element #0 has length " ++ Number.natText n ++ "; 2 is required"

end Misuse
end ClusterAccess
