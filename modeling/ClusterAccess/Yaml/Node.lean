import ClusterAccess.Yaml.Implicit
import ClusterAccess.Yaml.Stream

/-!
# Nodes

`Graph.ofTokens` reads the one document of a token stream as a graph of nodes. Every node has a
number, and collections name their members by number: the use of an anchor is one more mention of
the node that the anchor names, so a collection can be a member of itself.
-/

namespace ClusterAccess.Yaml

abbrev NodeId := Nat

inductive Shape
  | scalar (text : String)
  | sequence (items : List NodeId)
  | mapping (entries : List (NodeId × NodeId))
  deriving Repr, Inhabited

structure Node where
  tag : Tag
  shape : Shape
  deriving Repr, Inhabited

abbrev Graph := Array Node

namespace Graph

/-- What the reader keeps: the tokens to come, the nodes read so far, the nodes that anchors name,
and the meaning of tag handles. -/
structure Reader where
  tokens : List Token
  nodes : Graph := #[]
  anchors : List (String × NodeId) := []
  handles : List (String × String) := []

def unexpected {α : Type} : List Token → Except Trouble α
  | .broken t :: _ => .error t
  | _ => .error .malformed

namespace Reader

def add (r : Reader) (n : Node) : NodeId × Reader :=
  (r.nodes.size, { r with nodes := r.nodes.push n })

def complete (r : Reader) (id : NodeId) (shape : Shape) : Reader :=
  { r with nodes := r.nodes.modify id fun n => { n with shape := shape } }

/-- A node that is not written. -/
def addAbsent (r : Reader) : NodeId × Reader :=
  r.add { tag := .null, shape := .scalar "" }

def rest (r : Reader) : Reader := { r with tokens := r.tokens.drop 1 }

end Reader

structure Properties where
  anchor : Option String := none
  tag : Option String := none

def fullTag (r : Reader) (handle : Option String) (suffix : String) : Except Trouble String :=
  match handle with
  | none => .ok suffix
  | some h =>
    match r.handles.lookup h with
    | some meaning => .ok (meaning ++ suffix)
    | none => .error .malformed

/-- The anchor and the tag at the front of the tokens, in either order. -/
def properties (r : Reader) : Except Trouble (Properties × Reader) :=
  match r.tokens with
  | .anchor a :: .tag h s :: rest => do
    pure ({ anchor := some a, tag := some (← fullTag r h s) }, { r with tokens := rest })
  | .tag h s :: .anchor a :: rest => do
    pure ({ anchor := some a, tag := some (← fullTag r h s) }, { r with tokens := rest })
  | .anchor a :: rest => .ok ({ anchor := some a }, { r with tokens := rest })
  | .tag h s :: rest => do
    pure ({ tag := some (← fullTag r h s) }, { r with tokens := rest })
  | _ => .ok ({}, r)

/-- A tag other than the lone exclamation mark. -/
def Properties.explicit? (p : Properties) : Option String :=
  match p.tag with
  | some "!" => none
  | t => t

def Properties.collectionTag (p : Properties) (implied : Tag) : Tag :=
  match p.explicit? with
  | some t => Tag.ofString t
  | none => implied

def Properties.scalarTag (p : Properties) (text : String) (plain : Bool) : Tag :=
  match p.explicit? with
  | some t => Tag.ofString t
  | none => if plain || p.tag.isSome then Tag.implied text else .str

/-- Name a node; an anchor names one node only. -/
def Reader.declare (r : Reader) (p : Properties) (id : NodeId) : Except Trouble Reader :=
  match p.anchor with
  | none => .ok r
  | some a =>
    if (r.anchors.lookup a).isSome then .error .malformed
    else .ok { r with anchors := (a, id) :: r.anchors }

/-- Where a node stands, which decides what may stand there. -/
inductive Position
  | flow
  | block
  /-- Behind a key or a colon, where entries need no indentation. -/
  | member
  deriving DecidableEq, Repr

/-- Tokens behind an indicator that say that the node is not written. -/
def isAbsent (ends : List Token) (r : Reader) : Bool :=
  match r.tokens with
  | t :: _ => ends.contains t
  | [] => true

/-- A sequence with the items that `read` reads. It has its number before they have theirs. -/
def sequence (p : Properties) (read : Reader → Except Trouble (List NodeId × Reader))
    (r : Reader) : Except Trouble (NodeId × Reader) := do
  let (id, r) := r.add { tag := p.collectionTag .seq, shape := .sequence [] }
  let (items, r) ← read (← r.declare p id)
  pure (id, r.complete id (.sequence items))

def mapping (p : Properties) (read : Reader → Except Trouble (List (NodeId × NodeId) × Reader))
    (r : Reader) : Except Trouble (NodeId × Reader) := do
  let (id, r) := r.add { tag := p.collectionTag .map, shape := .mapping [] }
  let (entries, r) ← read (← r.declare p id)
  pure (id, r.complete id (.mapping entries))

def leaf (p : Properties) (text : String) (plain : Bool) (r : Reader) :
    Except Trouble (NodeId × Reader) := do
  let (id, r) := r.add { tag := p.scalarTag text plain, shape := .scalar text }
  pure (id, ← r.declare p id)

/-- Behind the comma in front of every item of a flow collection but the first. -/
def behindComma (first : Bool) (r : Reader) : Except Trouble Reader :=
  if first then .ok r
  else
    match r.tokens with
    | .flowEntry :: _ => .ok r.rest
    | ts => unexpected ts

mutual

def node : Nat → Position → Reader → Except Trouble (NodeId × Reader)
  | 0, _, _ => .error .malformed
  | fuel + 1, pos, r =>
    match r.tokens with
    | .link a :: rest =>
      match r.anchors.lookup a with
      | some id => .ok (id, { r with tokens := rest })
      | none => .error .malformed
    | _ => do
      let (p, r) ← properties r
      match r.tokens, pos with
      | .broken t :: _, _ => .error t
      | .scalar text plain :: _, _ => leaf p text plain r.rest
      | .flowSequenceStart :: _, _ => sequence p (flowItems fuel true) r.rest
      | .flowMappingStart :: _, _ => mapping p (flowEntries fuel true) r.rest
      | .entry :: _, .member => sequence p (plainItems fuel) r
      | .sequenceStart :: _, .block => sequence p (blockItems fuel) r.rest
      | .sequenceStart :: _, .member => sequence p (blockItems fuel) r.rest
      | .mappingStart :: _, .block => mapping p (blockEntries fuel) r.rest
      | .mappingStart :: _, .member => mapping p (blockEntries fuel) r.rest
      | ts, _ => if p.anchor.isSome || p.tag.isSome then leaf p "" true r else unexpected ts

def nodeUnless : Nat → List Token → Position → Reader → Except Trouble (NodeId × Reader)
  | 0, _, _, _ => .error .malformed
  | fuel + 1, ends, pos, r => if isAbsent ends r then .ok r.addAbsent else node fuel pos r

def blockItems : Nat → Reader → Except Trouble (List NodeId × Reader)
  | 0, _ => .error .malformed
  | fuel + 1, r =>
    match r.tokens with
    | .entry :: _ => do
      let (n, r) ← nodeUnless fuel [.entry, .blockEnd] .block r.rest
      let (ns, r) ← blockItems fuel r
      pure (n :: ns, r)
    | .blockEnd :: _ => .ok ([], r.rest)
    | ts => unexpected ts

/-- The items of a sequence at the indentation of its mapping. -/
def plainItems : Nat → Reader → Except Trouble (List NodeId × Reader)
  | 0, _ => .error .malformed
  | fuel + 1, r =>
    match r.tokens with
    | .entry :: _ => do
      let (n, r) ← nodeUnless fuel [.entry, .key, .value, .blockEnd] .block r.rest
      let (ns, r) ← plainItems fuel r
      pure (n :: ns, r)
    | _ => .ok ([], r)

def blockEntries : Nat → Reader → Except Trouble (List (NodeId × NodeId) × Reader)
  | 0, _ => .error .malformed
  | fuel + 1, r =>
    match r.tokens with
    | .key :: _ => do
      let (k, r) ← nodeUnless fuel [.key, .value, .blockEnd] .member r.rest
      let (v, r) ← memberValue fuel [.key, .value, .blockEnd] .member r
      let (es, r) ← blockEntries fuel r
      pure ((k, v) :: es, r)
    | .blockEnd :: _ => .ok ([], r.rest)
    | ts => unexpected ts

/-- The value behind a colon; without a colon there is none. -/
def memberValue : Nat → List Token → Position → Reader → Except Trouble (NodeId × Reader)
  | 0, _, _, _ => .error .malformed
  | fuel + 1, ends, pos, r =>
    match r.tokens with
    | .value :: _ => nodeUnless fuel ends pos r.rest
    | _ => .ok r.addAbsent

/-- The items of a flow sequence; an item may be a single pair. -/
def flowItems : Nat → Bool → Reader → Except Trouble (List NodeId × Reader)
  | 0, _, _ => .error .malformed
  | fuel + 1, first, r =>
    match r.tokens with
    | .flowSequenceEnd :: _ => .ok ([], r.rest)
    | _ :: _ => do
      let r ← behindComma first r
      match r.tokens with
      | .flowSequenceEnd :: _ => pure ([], r.rest)
      | .key :: _ => do
        let (id, r) := r.rest.add { tag := .map, shape := .mapping [] }
        let (k, r) ← nodeUnless fuel [.value, .flowEntry, .flowSequenceEnd] .flow r
        let (v, r) ← memberValue fuel [.flowEntry, .flowSequenceEnd] .flow r
        let (ns, r) ← flowItems fuel false (r.complete id (.mapping [(k, v)]))
        pure (id :: ns, r)
      | _ => do
        let (n, r) ← node fuel .flow r
        let (ns, r) ← flowItems fuel false r
        pure (n :: ns, r)
    | [] => .error .malformed

/-- The entries of a flow mapping; an entry may lack a key indicator and a value. -/
def flowEntries : Nat → Bool → Reader → Except Trouble (List (NodeId × NodeId) × Reader)
  | 0, _, _ => .error .malformed
  | fuel + 1, first, r =>
    match r.tokens with
    | .flowMappingEnd :: _ => .ok ([], r.rest)
    | _ :: _ => do
      let r ← behindComma first r
      match r.tokens with
      | .flowMappingEnd :: _ => pure ([], r.rest)
      | .key :: _ => do
        let (k, r) ← nodeUnless fuel [.value, .flowEntry, .flowMappingEnd] .flow r.rest
        let (v, r) ← memberValue fuel [.flowEntry, .flowMappingEnd] .flow r
        let (es, r) ← flowEntries fuel false r
        pure ((k, v) :: es, r)
      | _ => do
        let (k, r) ← node fuel .flow r
        let (v, r) := r.addAbsent
        let (es, r) ← flowEntries fuel false r
        pure ((k, v) :: es, r)
    | [] => .error .malformed

end

/-- The handles that every document knows. -/
def standardHandles : List (String × String) := [("!", "!"), ("!!", tagBase)]

/-- The directives in front of a document: at most one version, which must be of the first major
number, and one meaning for each handle. -/
def directives : Bool → List (String × String) → List Token →
    Except Trouble (List (String × String) × List Token)
  | versioned, handles, .version major :: rest =>
    if versioned || major != 1 then .error .malformed else directives true handles rest
  | versioned, handles, .handle name meaning :: rest =>
    if (handles.lookup name).isSome then .error .malformed
    else directives versioned ((name, meaning) :: handles) rest
  | versioned, handles, .directive :: rest => directives versioned handles rest
  | _, handles, ts => .ok (handles ++ standardHandles, ts)

/-- Nothing but document ends up to the end of the stream. The directives of another document are
read before it is refused. -/
def finished : List Token → Except Trouble Unit
  | .documentEnd :: rest => finished rest
  | [.streamEnd] => .ok ()
  | ts => do
    let (_, ts) ← directives false [] ts
    unexpected ts

def isMarked : List Token → Bool
  | .version _ :: _ => true
  | .handle _ _ :: _ => true
  | .directive :: _ => true
  | .documentStart :: _ => true
  | _ => false

/-- A document of the given tokens, with no other behind it: its nodes and the number of the
root. -/
def document (handles : List (String × String)) (ts : List Token) :
    Except Trouble (Graph × NodeId) := do
  let (id, r) ← node (4 * ts.length + 8) .block { tokens := ts, handles := handles }
  finished r.tokens
  pure (r.nodes, id)

def emptyDocument : Graph × NodeId :=
  (#[{ tag := .null, shape := .scalar "" }], 0)

/-- The only document of a stream, if there is one. -/
def ofTokens (ts : List Token) : Except Trouble (Option (Graph × NodeId)) :=
  match ts with
  | [.streamEnd] => .ok none
  | ts =>
    if isMarked ts then do
      let (handles, ts) ← directives false [] ts
      match ts with
      | .documentStart :: ts =>
        match ts with
        | t :: _ =>
          if t == .documentStart || t == .documentEnd || t == .streamEnd || isMarked ts then do
            finished ts
            pure (some emptyDocument)
          else some <$> document handles ts
        | [] => .error .malformed
      | ts => unexpected ts
    else some <$> document standardHandles ts

def nodeAt (g : Graph) (id : NodeId) : Node := g.getD id default

def tag (g : Graph) (id : NodeId) : Tag := (g.nodeAt id).tag

def shape (g : Graph) (id : NodeId) : Shape := (g.nodeAt id).shape

def withTag (g : Graph) (id : NodeId) (t : Tag) : Graph :=
  g.modify id fun n => { n with tag := t }

def withEntries (g : Graph) (id : NodeId) (es : List (NodeId × NodeId)) : Graph :=
  g.modify id fun n => { n with shape := .mapping es }

/-- The entries of a mapping; any other node has none. -/
def entries (g : Graph) (id : NodeId) : List (NodeId × NodeId) :=
  match g.shape id with
  | .mapping es => es
  | _ => []

end Graph
end ClusterAccess.Yaml
