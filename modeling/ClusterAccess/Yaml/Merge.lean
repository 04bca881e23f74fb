import ClusterAccess.Yaml.Node

/-!
# Merging mappings

A merge key makes a mapping take over the entries of another mapping or of a list of mappings. The
entries that are taken over come first, so that the mapping's own entries win, and of the mappings
in a list the first one comes last. Merging changes the graph: a merge key is gone once its entries
were taken over, and a key that stands for the default value is an ordinary text from then on.
-/

namespace ClusterAccess.Yaml.Graph

/-- More steps than merging takes: each removes an entry or moves over one. -/
def mergeFuel (g : Graph) : Nat :=
  let entries := g.foldl (fun n node => match node.shape with
    | .mapping es => n + es.length
    | _ => n) 0
  (entries + 2) * (entries + 2) + g.size

mutual

/-- The graph in which a mapping has no merge keys; none if something else is to be merged. -/
def merge : Nat → Graph → NodeId → Option Graph
  | 0, _, _ => none
  | fuel + 1, g, id => mergeFrom fuel g id 0 []

/-- Merge from an entry on; `taken` are the entries taken over so far. -/
def mergeFrom : Nat → Graph → NodeId → Nat → List (NodeId × NodeId) → Option Graph
  | 0, _, _, _, _ => none
  | fuel + 1, g, id, place, taken =>
    match (g.entries id)[place]? with
    | none => some (g.withEntries id (taken ++ g.entries id))
    | some (key, value) =>
      match g.tag key with
      | .merge => do
        let g := g.withEntries id ((g.entries id).eraseIdx place)
        let (g, more) ←
          match g.shape value with
          | .mapping _ => do
            let g ← merge fuel g value
            pure (g, g.entries value)
          | .sequence items => mergeAll fuel g items
          | .scalar _ => none
        mergeFrom fuel g id place (taken ++ more)
      | .default => mergeFrom fuel (g.withTag key .str) id (place + 1) taken
      | _ => mergeFrom fuel g id (place + 1) taken

/-- Merge each mapping of a list; the entries of all of them, those of the first one last. -/
def mergeAll : Nat → Graph → List NodeId → Option (Graph × List (NodeId × NodeId))
  | 0, _, _ => none
  | _ + 1, g, [] => some (g, [])
  | fuel + 1, g, item :: rest =>
    match g.shape item with
    | .mapping _ => do
      let g ← merge fuel g item
      let own := g.entries item
      let (g, later) ← mergeAll fuel g rest
      pure (g, later ++ own)
    | _ => none

end

def merged? (g : Graph) (id : NodeId) : Option Graph :=
  merge g.mergeFuel g id

end ClusterAccess.Yaml.Graph
