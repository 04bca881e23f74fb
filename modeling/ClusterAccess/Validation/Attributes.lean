import ClusterAccess.Document.Storage

/-!
# Attributes beside fields

The fields of a value that passed validation are never changed. A name that starts with an
underscore is that of no field: assigning to it stores an attribute beside the fields. Attributes
are passed on to values derived from this one. Under some names they take the place of what a value
is described, compared or derived with, and most values do not fit there.
-/

namespace ClusterAccess

/-- What is stored in a finished value beside its fields. -/
structure Attributes where
  storage : Storage := {}
  /-- Members that are shown behind the fields. -/
  extra : Value := .null
  /-- Members that are not shown. -/
  hidden : Value := .null
  /-- What took the place of the names of the fields that were given. -/
  given : Option Value := none
  deriving Repr

namespace Attributes

def isFieldName (name : String) : Bool :=
  name.toList.head? != some '_'

/-- The attribute under a name is called, which no value can be. -/
def call (a : Attributes) (name : String) : Except Misuse Unit :=
  match a.storage.find? name with
  | some v => .error (.notAFunction v)
  | none => .ok ()

/-- The setter that a value in the place of the table of setters gives for a name is called. -/
def callSetter (table : Value) (name : String) : Except Misuse Unit :=
  match table with
  | .map es =>
    match Value.field es name with
    | .null => .ok ()
    | v => .error (.notAFunction v)
  | v => .error (.lacking "get" v)

def callSetters (a : Attributes) (name : String) : Except Misuse Unit := do
  match a.storage.find? "__pydantic_setattr_handlers__" with
  | some table => callSetter table name
  | none => pure ()
  a.call "_setattr_handler"

def set (a : Attributes) (typeLabel name : String) (v : Value) :
    Except AssignmentError Attributes := do
  (a.callSetters name).mapError AssignmentError.misuse
  if isFieldName name then .error (.frozenField name)
  else if name = "__fields_set__" then .error (.computedName typeLabel name)
  else if name = "__pydantic_extra__" then pure { a with extra := v }
  else if name = "__pydantic_private__" then pure { a with hidden := v }
  else if name = "__pydantic_fields_set__" then pure { a with given := some v }
  else
    let storage ← a.storage.set typeLabel name v
    pure { a with storage := storage }

/-! ### Descriptions -/

/-- Nothing is shown for what a value in the place of the table of computed fields describes. -/
def checkComputed : Value → Except Misuse Unit
  | .map [] => .ok ()
  | .map (e :: _) => .error (.lacking "repr" e.2)
  | v => .error (.lacking "items" v)

/-- Nothing is shown for a name that a value in the place of the table of fields describes. -/
def checkDescribed (table : Value) (name : Value) : Except Misuse Unit :=
  match table with
  | .map es =>
    match Value.lookup? es name with
    | some v => if v.truthy then .error (.lacking "repr" v) else .ok ()
    | none => .ok ()
  | v => .error (.lacking "get" v)

/-- The members of a value in the place of those that are shown behind the fields. -/
def extraFields : Value → Except Misuse (List (String × String))
  | .null => .ok []
  | .map es => .ok (es.map fun e => (e.1.display, e.2.quoted))
  | v => .error (.lacking "items" v)

def shownFields (a : Attributes) (fields : List (String × String)) :
    Except Misuse (List (String × String)) := do
  match a.storage.find? "__pydantic_computed_fields__" with
  | some table => checkComputed table
  | none => pure ()
  let own ← match a.storage.find? "__pydantic_fields__" with
    | some table =>
      (fields.map (fun f => Value.str f.1) ++ a.storage.entries.map Prod.fst).forM
        (checkDescribed table)
      pure []
    | none => pure fields
  pure (own ++ (← extraFields a.extra))

def describe (a : Attributes) (typeLabel : String) (fields : List (String × String)) :
    Except Misuse String := do
  a.call "__repr_name__"
  a.call "__repr_str__"
  a.call "__repr_args__"
  pure (Value.describeFields typeLabel (← a.shownFields fields))

/-! ### Comparisons -/

/-- The type that an attribute gives in the place of that of the value, if there is one. -/
def origin? (a : Attributes) : Except Misuse (Option Value) :=
  match a.storage.find? "__pydantic_generic_metadata__" with
  | none => .ok none
  | some v =>
    match v with
    | .map es =>
      match Value.field? es "origin" with
      | some o => .ok (if o.truthy then some o else none)
      | none => .error (.missingName "origin")
    | .str _ => .error (.noNames v)
    | .list _ => .error (.noNames v)
    | _ => .error (.noPlaces v)

def sameOrigin : Option Value → Option Value → Bool
  | none, none => true
  | some v, some w => v.same w
  | _, _ => false

/-- Whether the same members are shown behind the fields; all values without members are the
same. -/
def sameExtra (v w : Value) : Bool :=
  if v.truthy || w.truthy then v.same w else true

def same (a b : Attributes) (fields : Bool) : Except Misuse Bool := do
  let first ← a.origin?
  let second ← b.origin?
  pure (sameOrigin first second && a.hidden.same b.hidden && sameExtra a.extra b.extra && fields)

/-! ### Derived values -/

/-- The attributes of a derived value; `field` is the first field that is set in it. -/
def derived (a : Attributes) (field : String) : Except Misuse Attributes := do
  a.call "__copy__"
  match a.hidden with
  | .null => pure ()
  | .map _ => pure ()
  | v => .error (.lacking "items" v)
  match a.given with
  | none => pure a
  | some (.map _) => .error (.notAnEntry field.length)
  | some v => .error (.lacking "update" v)

end Attributes

end ClusterAccess
