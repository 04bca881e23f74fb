import ClusterAccess.Yaml.Content

/-!
# Values of documents

`read` gives the value of a text. The contents of its nodes are put together to one value: a node
that is mentioned twice appears twice, and a collection that contains itself is a knot.
-/

namespace ClusterAccess.Yaml

/-- A value with the numbers of the collections around it that come up again inside, and the values
known so far in which no outer collection comes up. -/
structure Tied (α : Type) where
  value : α
  opened : List NodeId
  known : Array (Option Value)

namespace Tied

def close (id : NodeId) (t : Tied Value) : Tied Value :=
  if t.opened.isEmpty then { t with known := t.known.setIfInBounds id (some t.value) }
  else
    let opened := t.opened.filter fun n => n != id
    let value := Value.knot id t.value
    { value := value, opened := opened
      known := if opened.isEmpty then t.known.setIfInBounds id (some value) else t.known }

def members (tie : Array (Option Value) → NodeId → Tied Value) (known : Array (Option Value))
    (ids : List NodeId) : Tied (List Value) :=
  let step (acc : Tied (List Value)) (id : NodeId) : Tied (List Value) :=
    let t := tie acc.known id
    { value := t.value :: acc.value, opened := (t.opened ++ acc.opened).eraseDups
      known := t.known }
  let t := ids.foldl step { value := [], opened := [], known := known }
  { t with value := t.value.reverse }

end Tied

/-- The values of keys and of values, side by side. -/
def pairUp : List Value → List (Value × Value)
  | k :: v :: rest => (k, v) :: pairUp rest
  | _ => []

def Content.isMap : Content → Bool
  | .map _ => true
  | _ => false

/-- The value of a node; `path` are the collections around it. -/
def tie (contents : Array (Option Content)) :
    Nat → List NodeId → Array (Option Value) → NodeId → Tied Value
  | 0, _, known, _ => { value := .null, opened := [], known := known }
  | fuel + 1, path, known, id =>
    match (contents[id]?).join, (known[id]?).join with
    | none, _ => { value := .null, opened := [], known := known }
    | some (.leaf v), _ => { value := v, opened := [], known := known }
    | some _, some v => { value := v, opened := [], known := known }
    | some c, none =>
      if path.contains id then { value := .loop id c.isMap, opened := [id], known := known }
      else
        let inner := Tied.members (tie contents fuel (id :: path)) known
        let sides (es : List (NodeId × NodeId)) := inner (es.flatMap fun e => [e.1, e.2])
        match c with
        | .leaf v => { value := v, opened := [], known := known }
        | .list ids =>
          let t := inner ids
          Tied.close id { t with value := Value.list t.value }
        | .set ids =>
          let t := inner ids
          Tied.close id { t with value := Value.set t.value }
        | .map es =>
          let t := sides es
          Tied.close id { t with value := Value.map (pairUp t.value) }
        | .pairs es =>
          let t := sides es
          Tied.close id
            { t with value := Value.list ((pairUp t.value).map fun e => .tuple [e.1, e.2]) }

def Graph.value (g : Graph) (root : NodeId) : Except ContentError Value := do
  let contents ← g.contents root
  pure (tie contents (g.size + 1) [] (Array.replicate g.size none) root).value

def failureOfTrouble : Trouble → Failure
  | .malformed => .malformed
  | .unfinished => .malformed
  | .codePoint n => .scalar (.codePoint n)
  | .tooManyDigits n => .scalar (.tooManyDigits n)
  | .undecodable => .undecodable

def failureOfContent : ContentError → Failure
  | .malformed => .malformed
  | .scalar e => .scalar e

/-- The value of a text; an empty text is null. -/
def read (s : Source) : Except Failure Value :=
  match Graph.ofTokens (tokens s) with
  | .error t => .error (failureOfTrouble t)
  | .ok none => .ok .null
  | .ok (some (g, root)) => (g.value root).mapError failureOfContent

end ClusterAccess.Yaml
