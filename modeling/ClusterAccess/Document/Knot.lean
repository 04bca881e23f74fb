import ClusterAccess.Document.Value

/-!
# Untying knots

A collection that contains itself is written as a knot with loops inside. `untied` gives the plain
collection on the outside: its members are then values of their own, in which the loops that stood
for the whole have become the whole again. What is open already is not tied a second time, so in the
text of a member the whole appears once, and a loop marks where the member comes up again.
-/

namespace ClusterAccess.Value

def isMap : Value → Bool
  | .map _ => true
  | .knot _ v => v.isMap
  | .loop _ isMap => isMap
  | _ => false

mutual

/-- The value with loops in place of the knots that have one of the given numbers. -/
def cut (opened : List Nat) : Value → Value
  | .list xs => .list (cutList opened xs)
  | .tuple xs => .tuple (cutList opened xs)
  | .map es => .map (cutEntries opened es)
  | .knot n v => if opened.contains n then .loop n v.isMap else .knot n (cut opened v)
  | v => v

def cutList (opened : List Nat) : List Value → List Value
  | [] => []
  | x :: xs => cut opened x :: cutList opened xs

def cutEntries (opened : List Nat) : List (Value × Value) → List (Value × Value)
  | [] => []
  | (k, v) :: es => (k, cut opened v) :: cutEntries opened es

end

mutual

/-- The value with `whole` in place of its loops with a number; `opened` are the knots around it. -/
def graft (number : Nat) (whole : Value) (opened : List Nat) : Value → Value
  | .list xs => .list (graftList number whole opened xs)
  | .tuple xs => .tuple (graftList number whole opened xs)
  | .map es => .map (graftEntries number whole opened es)
  | .knot n v => .knot n (graft number whole (n :: opened) v)
  | .loop n isMap => if n = number then cut opened whole else .loop n isMap
  | v => v

def graftList (number : Nat) (whole : Value) (opened : List Nat) : List Value → List Value
  | [] => []
  | x :: xs => graft number whole opened x :: graftList number whole opened xs

def graftEntries (number : Nat) (whole : Value) (opened : List Nat) :
    List (Value × Value) → List (Value × Value)
  | [] => []
  | (k, v) :: es => (k, graft number whole opened v) :: graftEntries number whole opened es

end

/-- The collection that a knot ties; any other value as it is. -/
def untied : Value → Value
  | .knot n v => graft n (.knot n v) [] v
  | v => v

end ClusterAccess.Value
