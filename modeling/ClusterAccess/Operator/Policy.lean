import ClusterAccess.Validation.Lax

/-!
# Policies for child resources

How a child that drifted is brought back, and the policies of all child kinds in the order in which
they were added.
-/

namespace ClusterAccess

inductive UpdateStrategy
  /-- Delete, then create. -/
  | recreate
  /-- Replace in place. -/
  | replace
  /-- Create again only once the child is gone. -/
  | onDelete
  deriving DecidableEq, Repr

namespace UpdateStrategy

def all : List UpdateStrategy := [.recreate, .replace, .onDelete]

def word : UpdateStrategy → String
  | .recreate => "Recreate"
  | .replace => "Replace"
  | .onDelete => "OnDelete"

def constant : UpdateStrategy → String
  | .recreate => "RECREATE"
  | .replace => "REPLACE"
  | .onDelete => "ON_DELETE"

def ofWord? (s : String) : Option UpdateStrategy := all.find? fun u => u.word == s

def check : Value → Check UpdateStrategy
  | .str s =>
    match ofWord? s with
    | some u => .ok u
    | none => Check.refuse .enumeration
  | _ => Check.refuse .enumeration

def checkPolicy (entries : List (Value × Value)) : Check UpdateStrategy :=
  Lax.required entries "update_strategy" check

def describe (u : UpdateStrategy) : String :=
  "ChildConfig(update_strategy=<UpdateStrategy." ++ u.constant ++ ": " ++
    Text.Quoted.ofString u.word ++ ">)"

end UpdateStrategy

/-- Policies by kind, in the order of insertion. -/
abbrev Children := List (ResourceKind × UpdateStrategy)

namespace Children

def find? (cs : Children) (k : ResourceKind) : Option UpdateStrategy := cs.lookup k

/-- Set the policy of a kind: a known kind keeps its place, a new one comes last. -/
def put (cs : Children) (k : ResourceKind) (u : UpdateStrategy) : Children :=
  match cs with
  | [] => [(k, u)]
  | (j, v) :: rest => if j = k then (j, u) :: rest else (j, v) :: put rest k u

/-- The same policies for the same kinds, in any order. -/
def same (cs ds : Children) : Bool :=
  cs.length == ds.length && cs.all fun c => find? ds c.1 == some c.2

theorem find?_put (cs : Children) (k j : ResourceKind) (u : UpdateStrategy) :
    find? (put cs k u) j = if j = k then some u else find? cs j := by
  induction cs with
  | nil =>
    by_cases h : j = k
    · simp [put, find?, h]
    · simp [put, find?, List.lookup_cons, h, beq_eq_false_iff_ne.mpr h]
  | cons c rest ih =>
    obtain ⟨i, v⟩ := c
    by_cases hik : i = k
    · subst hik
      by_cases h : j = i
      · simp [put, find?, h]
      · simp [put, find?, List.lookup_cons, h, beq_eq_false_iff_ne.mpr h]
    · by_cases h : j = i
      · subst h
        simp [put, find?, hik]
      · have hb : (j == i) = false := beq_eq_false_iff_ne.mpr h
        simp only [find?] at ih
        simp [put, find?, List.lookup_cons, hik, hb, ih]

end Children
end ClusterAccess
