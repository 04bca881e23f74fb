import ClusterAccess.Document.Misuse

/-!
# Attributes of objects

An object stores attributes under their names. Three names stand for something else: the type of the
object takes no value at all, its weak references are never written, and its storage takes a map,
which replaces all attributes and drops the parts that the object had of its own.
-/

namespace ClusterAccess

inductive AssignmentError
  | frozenField (name : String)
  /-- The type of an object can only be replaced by another type. -/
  | notAType (found : Value)
  /-- The storage of an object can only be replaced by a map. -/
  | notStorage (found : Value)
  | readOnlyName (typeLabel name : String)
  | computedName (typeLabel name : String)
  /-- A value that took the place of what assignments are made with. -/
  | misuse (e : Misuse)
  deriving Repr

def AssignmentError.message : AssignmentError → String
  | .frozenField name => name
  | .notAType v => "__class__ must be set to a class, not '" ++ v.typeName ++ "' object"
  | .notStorage v => "__dict__ must be set to a dictionary, not a '" ++ v.typeName ++ "'"
  | .readOnlyName typeLabel name =>
    "attribute '" ++ name ++ "' of '" ++ typeLabel ++ "' objects is not writable"
  | .computedName typeLabel name =>
    "property '" ++ name ++ "' of '" ++ typeLabel ++ "' object has no setter"
  | .misuse e => e.message

structure Storage where
  entries : List (Value × Value) := []
  /-- Whether the object lost the parts that it had of its own. -/
  dropped : Bool := false
  deriving Repr

namespace Storage

def find? (s : Storage) (name : String) : Option Value :=
  Value.field? s.entries name

def set (s : Storage) (typeLabel name : String) (v : Value) : Except AssignmentError Storage :=
  if name = "__class__" then .error (.notAType v)
  else if name = "__weakref__" then .error (.readOnlyName typeLabel name)
  else if name = "__dict__" then
    match v with
    | .map es => .ok { entries := es, dropped := true }
    | v => .error (.notStorage v)
  else .ok { s with entries := Value.put s.entries (.str name) v }

/-- The attribute in the place of a part, or else the part that the object has of its own. -/
def part {α : Type} (s : Storage) (typeLabel name : String) (own : α) (read : Value → α) :
    Except Misuse α :=
  match s.find? name with
  | some v => .ok (read v)
  | none => if s.dropped then .error (.lacks name typeLabel) else .ok own

end Storage
end ClusterAccess
