import ClusterAccess.Operator.Session
import ClusterAccess.Proofs.Assembly
import ClusterAccess.Proofs.Operator.Children
import ClusterAccess.Proofs.Trace

/-!
# Building configurations by edits

After any edits a part of a configuration is what the last edit of that part made it, and each kind
of child has the policy given last (`Built`). Edits of one configuration leave all others alone, and
so does whatever is refused.
-/

namespace ClusterAccess.OperatorConfig

/-- The parts of a configuration that an edit sets as a whole. -/
inductive Field
  | namespaceName
  | trackingLabel
  | ownershipLabel
  | serverPort
  | exposeMetrics
  | exposeHealth
  deriving DecidableEq, Repr

def get (c : OperatorConfig) : Field → Value
  | .namespaceName => c.namespaceName
  | .trackingLabel => c.trackingLabel
  | .ownershipLabel => c.ownershipLabel
  | .serverPort => c.serverPort
  | .exposeMetrics => c.exposeMetrics
  | .exposeHealth => c.exposeHealth

namespace Edit

def write? : Edit → Option (Field × Value)
  | .namespaceName v => some (.namespaceName, v)
  | .trackingLabel v => some (.trackingLabel, v)
  | .ownershipLabel v => some (.ownershipLabel, v)
  | .serverPort v => some (.serverPort, v)
  | .exposeMetrics v => some (.exposeMetrics, v)
  | .exposeHealth v => some (.exposeHealth, v)
  | .child _ _ => none

def child? : Edit → Option (ResourceKind × UpdateStrategy)
  | .child k u => some (k, u)
  | _ => none

/-- The value is of the type that its part is declared with. -/
def Declared : Edit → Prop
  | .namespaceName v => ∃ s, v = .str s
  | .trackingLabel v => ∃ s, v = .str s
  | .ownershipLabel v => ∃ s, v = .str s
  | .serverPort v => (∃ i, v = .int i) ∨ ∃ b, v = .bool b
  | .exposeMetrics v => ∃ b, v = .bool b
  | .exposeHealth v => ∃ b, v = .bool b
  | .child _ _ => True

end Edit

def writes (edits : List Edit) : List (Field × Value) := edits.filterMap Edit.write?

def childWrites (edits : List Edit) : Children := edits.filterMap Edit.child?

/-- What a sequence of edits makes of a configuration. -/
structure Built (start : OperatorConfig) (edits : List Edit) (made : OperatorConfig) : Prop where
  parent : made.parent = start.parent
  name : made.name = start.name
  part : ∀ f, made.get f = (last (writes edits) f).getD (start.get f)
  child : ∀ k, made.children.find? k = (last (childWrites edits) k).or (start.children.find? k)
  distinct : made.children.kinds.Nodup
  order : made.children.kinds = (start.children.kinds ++ (childWrites edits).kinds).eraseDups

variable {c d start : OperatorConfig} {edits edits' : List Edit}

/-! ### One edit and many -/

theorem apply_get (c : OperatorConfig) (e : Edit) (f : Field) :
    (c.apply e).get f = (e.write?.toList.lookup f).getD (c.get f) := by
  cases e <;> cases f <;> rfl

theorem applyAll_get (c : OperatorConfig) (edits : List Edit) (f : Field) :
    (c.applyAll edits).get f = (last (writes edits) f).getD (c.get f) := by
  induction edits generalizing c with
  | nil => rfl
  | cons e rest ih =>
    change ((c.apply e).applyAll rest).get f = _
    rw [ih, apply_get]
    unfold writes
    rw [List.filterMap_cons]
    cases e.write? with
    | none => rfl
    | some entry =>
      dsimp only
      rw [last_cons]
      cases last (rest.filterMap Edit.write?) f <;> rfl

theorem apply_children (c : OperatorConfig) (e : Edit) :
    (c.apply e).children = c.children.putAll e.child?.toList := by
  cases e <;> rfl

theorem applyAll_children (c : OperatorConfig) (edits : List Edit) :
    (c.applyAll edits).children = c.children.putAll (childWrites edits) := by
  induction edits generalizing c with
  | nil => rfl
  | cons e rest ih =>
    change ((c.apply e).applyAll rest).children = _
    rw [ih, apply_children]
    unfold childWrites
    rw [List.filterMap_cons]
    cases e.child? <;> rfl

theorem applyAll_parent (c : OperatorConfig) (edits : List Edit) :
    (c.applyAll edits).parent = c.parent ∧ (c.applyAll edits).name = c.name := by
  induction edits generalizing c with
  | nil => exact ⟨rfl, rfl⟩
  | cons e rest ih =>
    obtain ⟨parent, name⟩ := ih (c.apply e)
    cases e <;> exact ⟨parent, name⟩

theorem built (distinct : start.children.kinds.Nodup) (edits : List Edit) :
    Built start edits (start.applyAll edits) := by
  obtain ⟨parent, name⟩ := applyAll_parent start edits
  refine ⟨parent, name, applyAll_get start edits, ?_, ?_, ?_⟩
  · intro k
    rw [applyAll_children, Children.find?_putAll]
  · rw [applyAll_children]
    exact Children.nodup_putAll _ distinct
  · rw [applyAll_children]
    exact Children.kinds_putAll _ distinct

/-- Every edit of a configuration without attributes succeeds. -/
theorem edit_ofValue (c : OperatorConfig) (e : Edit) :
    (Finished.ofValue c).edit e = .ok (.ofValue (c.apply e)) := rfl

theorem edits_ofValue (c : OperatorConfig) (edits : List Edit) :
    edits.foldlM Finished.edit (Finished.ofValue c) = .ok (.ofValue (c.applyAll edits)) := by
  induction edits generalizing c with
  | nil => rfl
  | cons e rest ih =>
    rw [List.foldlM_cons, edit_ofValue]
    exact ih (c.apply e)

/-! ### Configurations that are the same -/

/-- Two last writes of a part that make it the same: none at all, or values that are the same. -/
def SameWrite : Option Value → Option Value → Prop
  | none, none => True
  | some v, some w => v.same w = true
  | _, _ => False

theorem same_iff : c.same d = true ↔ c.parent = d.parent ∧ c.name = d.name ∧
    c.children.same d.children = true ∧ ∀ f, (c.get f).same (d.get f) = true := by
  unfold same
  simp only [Bool.and_eq_true, beq_iff_eq]
  constructor
  · rintro ⟨⟨⟨⟨⟨⟨⟨⟨parent, children⟩, space⟩, name⟩, tracking⟩, ownership⟩, port⟩, metrics⟩, health⟩
    refine ⟨parent, name, children, fun f => ?_⟩
    cases f with
    | namespaceName => exact space
    | trackingLabel => exact tracking
    | ownershipLabel => exact ownership
    | serverPort => exact port
    | exposeMetrics => exact metrics
    | exposeHealth => exact health
  · rintro ⟨parent, name, children, parts⟩
    exact ⟨⟨⟨⟨⟨⟨⟨⟨parent, children⟩, parts .namespaceName⟩, name⟩, parts .trackingLabel⟩,
      parts .ownershipLabel⟩, parts .serverPort⟩, parts .exposeMetrics⟩, parts .exposeHealth⟩

theorem Built.same {start' made made' : OperatorConfig} (h : Built start edits made)
    (h' : Built start' edits' made') (starts : start.same start' = true)
    (distinct : start.children.kinds.Nodup) (distinct' : start'.children.kinds.Nodup)
    (parts : ∀ f, SameWrite (last (writes edits) f) (last (writes edits') f))
    (children : ∀ k, last (childWrites edits) k = last (childWrites edits') k) :
    made.same made' = true := by
  obtain ⟨parent, name, sameChildren, sameParts⟩ := same_iff.mp starts
  have before := (Children.same_iff distinct distinct').mp sameChildren
  refine same_iff.mpr ⟨?_, ?_, ?_, fun f => ?_⟩
  · rw [h.parent, h'.parent, parent]
  · rw [h.name, h'.name, name]
  · refine (Children.same_iff h.distinct h'.distinct).mpr fun k => ?_
    rw [h.child, h'.child, children, before]
  · rw [h.part, h'.part]
    have written := parts f
    cases first : last (writes edits) f <;> cases second : last (writes edits') f <;>
      rw [first, second] at written
    · exact sameParts f
    · exact written.elim
    · exact written.elim
    · exact written

theorem same_of_declared {e : Edit} {f : Field} {v : Value} (declared : e.Declared)
    (writes : e.write? = some (f, v)) : v.same v = true := by
  cases e with
  | child k u => cases writes
  | serverPort v =>
    obtain ⟨_, rfl⟩ := Prod.mk.inj (Option.some.inj writes)
    rcases declared with ⟨i, rfl⟩ | ⟨b, rfl⟩ <;> simp [Value.same, Value.asInt?]
  | _ =>
    obtain ⟨_, rfl⟩ := Prod.mk.inj (Option.some.inj writes)
    obtain ⟨_, rfl⟩ := declared
    simp [Value.same, Value.asInt?]

/-- The last writes of values of declared types are the same as themselves. -/
theorem sameWrite_of_declared (declared : ∀ e ∈ edits, e.Declared) (f : Field) :
    SameWrite (last (writes edits) f) (last (writes edits) f) := by
  cases written : last (writes edits) f with
  | none => trivial
  | some v =>
    unfold last at written
    obtain ⟨before, after, listed, _⟩ := List.lookup_eq_some_iff.mp written
    have member : (f, v) ∈ writes edits := by
      rw [← List.mem_reverse, listed]
      simp
    obtain ⟨e, among, writes⟩ := List.mem_filterMap.mp member
    exact same_of_declared (declared e among) writes

/-! ### Configurations that passed validation -/

/-- The children that named values give, in their order. -/
def givenChildren (entries : List (Value × Value)) : Children :=
  match Value.field? entries "child_types" with
  | some (.map es) => es.filterMap fun e => (checkChild e).toOption
  | _ => []

theorem foldl_addChild {es : List (Value × Value)} {first : Check Children} {cs : Children}
    (h : es.foldl addChild first = .ok cs) :
    ∃ start, first = .ok start ∧
      cs = start.putAll (es.filterMap fun e => (checkChild e).toOption) := by
  induction es generalizing first with
  | nil => exact ⟨cs, h, rfl⟩
  | cons e rest ih =>
    obtain ⟨next, added, rfl⟩ := ih h
    obtain ⟨f, c, mapped, checked, rfl⟩ := Check.also_ok.mp added
    obtain ⟨start, given, rfl⟩ := Check.map_ok.mp mapped
    refine ⟨start, given, ?_⟩
    rw [List.filterMap_cons, checked]
    rfl

theorem check_children {entries : List (Value × Value)} (h : check entries = .ok c) :
    Lax.optional entries "child_types" [] checkChildren = .ok c.children := by
  unfold check at h
  simp only [Check.also_ok, Check.map_ok] at h
  obtain ⟨_, _, ⟨_, _, ⟨_, _, ⟨_, _, ⟨_, _, ⟨_, _, ⟨_, _, ⟨_, _, ⟨_, _, rfl⟩, children, rfl⟩, _, rfl⟩,
    _, rfl⟩, _, rfl⟩, _, rfl⟩, _, rfl⟩, _, rfl⟩, _, rfl⟩ := h
  exact children

theorem children_of_check {entries : List (Value × Value)} (h : check entries = .ok c) :
    c.children = Children.putAll [] (givenChildren entries) := by
  have children := check_children h
  unfold Lax.optional at children
  unfold givenChildren
  cases given : Value.field? entries "child_types" with
  | none =>
    rw [given] at children
    exact (Except.ok.inj children).symm
  | some v =>
    rw [given] at children
    have checked := Check.within_ok.mp children
    unfold checkChildren at checked
    split at checked
    · obtain ⟨start, first, made⟩ := foldl_addChild checked
      obtain rfl := Except.ok.inj first
      exact made
    · cases checked

theorem distinct_of_check {entries : List (Value × Value)} (h : check entries = .ok c) :
    c.children.kinds.Nodup := by
  rw [children_of_check h]
  exact Children.nodup_putAll _ List.nodup_nil

theorem order_of_check {entries : List (Value × Value)} (h : check entries = .ok c) :
    c.children.kinds = (givenChildren entries).kinds.eraseDups := by
  have none : (Children.kinds []).Nodup := List.nodup_nil
  rw [children_of_check h, Children.kinds_putAll _ none]
  rfl

end ClusterAccess.OperatorConfig
