import ClusterAccess.Document.Date
import ClusterAccess.Number.Shortest
import ClusterAccess.Resource.Kind

/-!
# Values of documents

A document field can hold any of these values, and log fields and builder arguments can too. Maps
keep the order of insertion. `truthy` says which values count as given, and `same` compares values
across number types: `1`, `1.0` and `true` are the same, also as keys.

A collection that contains itself is a knot: it carries a number, and a loop with that number stands
for it wherever it comes up again inside.
-/

namespace ClusterAccess

open Number (Binary64)

inductive Value
  | null
  | bool (b : Bool)
  | int (i : Int)
  | float (x : Binary64)
  | str (s : String)
  | bytes (bs : List UInt8)
  | date (d : Date)
  | moment (m : Moment)
  | list (xs : List Value)
  | tuple (xs : List Value)
  | map (entries : List (Value × Value))
  | set (xs : List Value)
  | kind (k : ResourceKind)
  | reference (r : KindReference)
  | knot (number : Nat) (collection : Value)
  | loop (number : Nat) (isMap : Bool)
  deriving Repr, Inhabited

namespace Value

/-- The empty collections, zero, `false` and null do not count as given; everything else does. -/
def truthy : Value → Bool
  | .null => false
  | .bool b => b
  | .int i => i != 0
  | .float x => !x.isZero
  | .str s => s != ""
  | .bytes bs => !bs.isEmpty
  | .list xs => !xs.isEmpty
  | .tuple xs => !xs.isEmpty
  | .map es => !es.isEmpty
  | .set xs => !xs.isEmpty
  | _ => true

def orElse (v other : Value) : Value :=
  if v.truthy then v else other

def typeName : Value → String
  | .null => "NoneType"
  | .bool _ => "bool"
  | .int _ => "int"
  | .float _ => "float"
  | .str _ => "str"
  | .bytes _ => "bytes"
  | .date _ => "date"
  | .moment _ => "datetime"
  | .list _ => "list"
  | .tuple _ => "tuple"
  | .map _ => "dict"
  | .set _ => "set"
  | .kind _ => "K8sType"
  | .reference _ => "K8sTypeRef"
  | .knot _ v => v.typeName
  | .loop _ isMap => if isMap then "dict" else "list"

/-- The integer that a number or a truth value stands for. -/
def asInt? : Value → Option Int
  | .bool b => some (if b then 1 else 0)
  | .int i => some i
  | .float x => x.int?
  | _ => none

def isNan : Value → Bool
  | .float .nan => true
  | _ => false

mutual

/-- Equality that looks through the type of numbers. Maps and sets are compared without regard to
order, lists and tuples never equal each other. The number that is none equals itself only as a
part of a collection. -/
def same : Value → Value → Bool
  | .null, .null => true
  | .bool a, w => w.asInt? == some (if a then 1 else 0)
  | .int a, w => w.asInt? == some a
  | .float x, .float y => x.numEq y
  | .float x, w =>
    match x.int?, w.asInt? with
    | some a, some b => a == b
    | _, _ => false
  | .str a, .str b => a == b
  | .bytes a, .bytes b => a == b
  | .date a, .date b => a == b
  | .moment a, .moment b => a.same b
  | .list xs, .list ys => sameList xs ys
  | .tuple xs, .tuple ys => sameList xs ys
  | .map es, .map fs => es.length == fs.length && sameEntries es fs
  | .set xs, .set ys => xs.length == ys.length && sameMembers xs ys
  | .kind a, .kind b => a == b
  | .reference a, .reference b => a == b
  | .knot m a, .knot n b => m == n || same a b
  | .knot _ a, w => same a w
  | .loop m _, .loop n _ => m == n
  | _, _ => false

def sameList : List Value → List Value → Bool
  | [], [] => true
  | x :: xs, y :: ys => (x.isNan && y.isNan || same x y) && sameList xs ys
  | _, _ => false

def sameEntries : List (Value × Value) → List (Value × Value) → Bool
  | [], _ => true
  | (k, v) :: es, fs =>
    fs.any (fun f =>
      (k.isNan && f.1.isNan || same k f.1) && (v.isNan && f.2.isNan || same v f.2)) &&
      sameEntries es fs

def sameMembers : List Value → List Value → Bool
  | [], _ => true
  | x :: xs, ys => ys.any (fun y => x.isNan && y.isNan || same x y) && sameMembers xs ys

end

def lookup? (entries : List (Value × Value)) (key : Value) : Option Value :=
  (entries.find? fun e => e.1.same key).map Prod.snd

def field? (entries : List (Value × Value)) (name : String) : Option Value :=
  lookup? entries (.str name)

/-- The value stored under a text key, null if there is none. -/
def field (entries : List (Value × Value)) (name : String) : Value :=
  (field? entries name).getD .null

/-- Store a value: an equal key keeps its place and its spelling, a new one comes last. -/
def put (entries : List (Value × Value)) (key value : Value) : List (Value × Value) :=
  match entries with
  | [] => [(key, value)]
  | (k, v) :: rest => if k.same key then (k, value) :: rest else (k, v) :: put rest key value

def ofFields (fields : List (String × Value)) : Value :=
  .map (fields.map fun f => (.str f.1, f.2))

mutual

/-- The first part of a value that cannot serve as a key: a list, a map or a set. -/
def unhashable? : Value → Option String
  | .list _ => some "list"
  | .map _ => some "dict"
  | .set _ => some "set"
  | .tuple xs => unhashableIn? xs
  | .knot _ v => unhashable? v
  | .loop _ isMap => some (if isMap then "dict" else "list")
  | _ => none

def unhashableIn? : List Value → Option String
  | [] => none
  | x :: xs => (unhashable? x).or (unhashableIn? xs)

end

end Value
end ClusterAccess
