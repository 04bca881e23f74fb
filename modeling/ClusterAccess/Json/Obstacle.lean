import ClusterAccess.Document.Value
import ClusterAccess.Text.Utf8

/-!
# What keeps a value from being dumped

A text with surrogates has no bytes, and collections are dumped down to a greatest depth only.
`obstacle?` finds the first obstacle in the order in which a JSON text shows the parts of a value.
-/

namespace ClusterAccess.Json

inductive Obstacle
  /-- Surrogates in a text: the first one, its place and the place behind those that follow. -/
  | surrogates (first start stop : Nat)
  | tooDeep
  deriving DecidableEq, Repr

def obstacleOfText? (s : String) : Option Obstacle :=
  (Text.Utf8.surrogates? (fun _ => true) s.toList).map fun r => .surrogates r.1 r.2.1 r.2.2

mutual

/-- The first obstacle in a value that may be so many levels deep. -/
def obstacle? : Nat → Value → Option Obstacle
  | 0, _ => some .tooDeep
  | _ + 1, .str s => obstacleOfText? s
  | levels + 1, .list xs => obstacleOfList? levels xs
  | levels + 1, .tuple xs => obstacleOfList? levels xs
  | levels + 1, .map es => obstacleOfEntries? levels es
  | _, _ => none

def obstacleOfList? : Nat → List Value → Option Obstacle
  | _, [] => none
  | levels, x :: xs => (obstacle? levels x).or (obstacleOfList? levels xs)

/-- The first obstacle in the members of a map; their names are one level only. -/
def obstacleOfEntries? : Nat → List (Value × Value) → Option Obstacle
  | _, [] => none
  | levels, (k, v) :: es =>
    ((obstacle? 1 k).or (obstacle? levels v)).or (obstacleOfEntries? levels es)

end

end ClusterAccess.Json
