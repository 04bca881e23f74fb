import ClusterAccess.Yaml.Merge
import ClusterAccess.Yaml.Scalar.Content

/-!
# Contents of nodes

`Graph.contents` says what each node of a document stands for. A scalar stands for its value, a
collection for its members, which are named by their nodes. Collections are filled in the order in
which they are met, each one after the collection that it was met in, and the first fault on the way
is reported.
-/

namespace ClusterAccess.Yaml

inductive Content
  | leaf (v : Value)
  | list (items : List NodeId)
  | map (entries : List (NodeId × NodeId))
  | set (members : List NodeId)
  | pairs (entries : List (NodeId × NodeId))
  deriving Repr

structure Builder where
  graph : Graph
  contents : Array (Option Content)
  /-- The collections in the order in which they were met. -/
  met : Array NodeId := #[]

namespace Builder

def ofGraph (g : Graph) : Builder :=
  { graph := g, contents := Array.replicate g.size none }

def content? (b : Builder) (id : NodeId) : Option Content := (b.contents[id]?).join

def put (b : Builder) (id : NodeId) (c : Content) : Builder :=
  { b with contents := b.contents.setIfInBounds id (some c) }

def meet (b : Builder) (id : NodeId) (c : Content) : Builder :=
  { b.put id c with met := b.met.push id }

/-- The text that a node stands for: its own, or that of the default value of a mapping. -/
def text? (g : Graph) : Nat → NodeId → Option String
  | 0, _ => none
  | fuel + 1, id =>
    match g.shape id with
    | .scalar text => some text
    | .mapping es =>
      match es.find? fun e => g.tag e.1 = .default with
      | some e => text? g fuel e.2
      | none => none
    | .sequence _ => none

/-- The value of a node whose tag asks for a text. Only the text of a scalar is a moment. -/
def leafValue (g : Graph) (id : NodeId) : Except ContentError Value :=
  match text? g (g.size + 1) id with
  | none => .error .malformed
  | some text =>
    match g.tag id, g.shape id with
    | .timestamp, .mapping _ => .error (.scalar .textRequired)
    | tag, _ => Scalar.content tag text

/-- Meet a node: a scalar gets its value, a collection waits for its members. -/
def visit (b : Builder) (id : NodeId) : Except ContentError Builder :=
  match b.content? id with
  | some _ => .ok b
  | none =>
    if Scalar.isScalarTag (b.graph.tag id) then do
      pure (b.put id (.leaf (← leafValue b.graph id)))
    else
      match b.graph.tag id with
      | .seq => .ok (b.meet id (.list []))
      | .map => .ok (b.meet id (.map []))
      | .set => .ok (b.meet id (.set []))
      | .omap => .ok (b.meet id (.pairs []))
      | .pairs => .ok (b.meet id (.pairs []))
      | _ => .error .malformed

/-- Whether a node is the number that is none, as a word with a point. All such nodes are one. -/
def isCommonNan (b : Builder) (id : NodeId) : Bool :=
  match b.graph.shape id, b.content? id with
  | .scalar text, some (.leaf (.float .nan)) => text.toList.contains '.'
  | _, _ => false

def sameKey (b : Builder) (j k : NodeId) : Bool :=
  j = k || (b.isCommonNan j && b.isCommonNan k) ||
    match b.content? j, b.content? k with
    | some (.leaf v), some (.leaf w) => v.same w
    | _, _ => false

/-- Store a value: a key that is there already keeps its place, a new one comes last. -/
def putEntry (b : Builder) (key value : NodeId) : List (NodeId × NodeId) → List (NodeId × NodeId)
  | [] => [(key, value)]
  | (k, v) :: rest =>
    if b.sameKey k key then (k, value) :: rest else (k, v) :: putEntry b key value rest

/-- Meet the members of an entry. A key must not be a collection. -/
def visitEntry (acc : Builder × List (NodeId × NodeId)) (e : NodeId × NodeId) :
    Except ContentError (Builder × List (NodeId × NodeId)) := do
  let b ← acc.1.visit e.1
  match b.content? e.1 with
  | some (.leaf _) => do
    let b ← b.visit e.2
    pure (b, b.putEntry e.1 e.2 acc.2)
  | _ => .error .malformed

def visitMapping (b : Builder) (id : NodeId) :
    Except ContentError (Builder × List (NodeId × NodeId)) :=
  match b.graph.shape id with
  | .mapping _ =>
    match b.graph.merged? id with
    | some g => (g.entries id).foldlM visitEntry ({ b with graph := g }, [])
    | none => .error .malformed
  | _ => .error .malformed

def visitSequence (b : Builder) (id : NodeId) : Except ContentError (Builder × List NodeId) :=
  match b.graph.shape id with
  | .sequence items => do
    let b ← items.foldlM visit b
    pure (b, items)
  | _ => .error .malformed

def visitPair (acc : Builder × List (NodeId × NodeId)) (id : NodeId) :
    Except ContentError (Builder × List (NodeId × NodeId)) :=
  match acc.1.graph.shape id with
  | .mapping [e] => do
    let b ← acc.1.visit e.1
    let b ← b.visit e.2
    pure (b, acc.2 ++ [e])
  | _ => .error .malformed

def visitPairs (b : Builder) (id : NodeId) :
    Except ContentError (Builder × List (NodeId × NodeId)) :=
  match b.graph.shape id with
  | .sequence items => items.foldlM visitPair (b, [])
  | _ => .error .malformed

def fill (b : Builder) (id : NodeId) : Except ContentError Builder :=
  match b.content? id with
  | some (.list _) => do
    let (b, items) ← b.visitSequence id
    pure (b.put id (.list items))
  | some (.map _) => do
    let (b, es) ← b.visitMapping id
    pure (b.put id (.map es))
  | some (.set _) => do
    let (b, es) ← b.visitMapping id
    pure (b.put id (.set (es.map Prod.fst)))
  | some (.pairs _) => do
    let (b, es) ← b.visitPairs id
    pure (b.put id (.pairs es))
  | _ => .ok b

def fillFrom : Nat → Nat → Builder → Except ContentError Builder
  | 0, _, b => .ok b
  | fuel + 1, place, b =>
    match b.met[place]? with
    | none => .ok b
    | some id => do fillFrom fuel (place + 1) (← b.fill id)

end Builder

def Graph.contents (g : Graph) (root : NodeId) : Except ContentError (Array (Option Content)) := do
  let b ← (Builder.ofGraph g).visit root
  let b ← Builder.fillFrom (g.size + 1) 0 b
  pure b.contents

end ClusterAccess.Yaml
