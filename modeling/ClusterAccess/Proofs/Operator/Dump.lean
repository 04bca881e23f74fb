import ClusterAccess.Proofs.Json.Members
import ClusterAccess.Proofs.Json.RoundTrip
import ClusterAccess.Proofs.Operator.Builder
import ClusterAccess.Proofs.Resource.Identity
import Mathlib.Data.List.Nodup

/-!
# Children in a dump

The children of a configuration are distinct by all four parts of their kinds, but the members of a
dump are named by display texts, which leave out one part. A dump lists every child; it tells them
apart only if no two of them have the same display text (`dump_keeps_children_iff`).
-/

namespace ClusterAccess

namespace Children

/-- The members of a policy in a dump. -/
def policyMembers (u : UpdateStrategy) : Value :=
  Value.ofFields [("update_strategy", .str u.word)]

/-- The members of the children in a dump. -/
def members (cs : Children) : List (Value × Value) :=
  cs.map fun c => (.str c.1.display, policyMembers c.2)

/-- No two kinds have the same display text. -/
def Apart (cs : Children) : Prop :=
  ∀ j ∈ cs.kinds, ∀ k ∈ cs.kinds, j.display = k.display → j = k

instance (cs : Children) : Decidable cs.Apart :=
  inferInstanceAs (Decidable (∀ j ∈ cs.kinds, ∀ k ∈ cs.kinds, j.display = k.display → j = k))

variable {cs : Children} {k : ResourceKind} {u : UpdateStrategy}

theorem childMembers_eq (cs : Children) : OperatorConfig.childMembers cs = .map cs.members := by
  unfold OperatorConfig.childMembers Value.ofFields members
  rw [List.map_map]
  rfl

theorem names_of_members : ∀ m ∈ cs.members, ∃ s, m.1 = .str s := by
  intro m member
  obtain ⟨c, _, rfl⟩ := List.mem_map.mp member
  exact ⟨_, rfl⟩

theorem names_nodup_iff (distinct : cs.kinds.Nodup) :
    (cs.members.map Prod.fst).Nodup ↔ cs.Apart := by
  have names : cs.members.map Prod.fst = cs.kinds.map fun k => .str k.display := by
    unfold members kinds
    rw [List.map_map, List.map_map]
    rfl
  rw [names, List.nodup_map_iff_inj_on distinct]
  simp only [Value.str.injEq, Apart]

/-- Listed under a name are the policies of all kinds with this display text. -/
theorem listed_members (cs : Children) (name : String) :
    Json.listed cs.members name =
      (cs.filter fun c => c.1.display = name).map fun c => policyMembers c.2 := by
  induction cs with
  | nil => rfl
  | cons c rest ih =>
    change Json.listed ((.str c.1.display, policyMembers c.2) :: members rest) name = _
    rw [Json.listed_cons, ih, List.filter_cons]
    simp only [decide_eq_true_eq]
    split <;> rfl

/-- Of several policies under a name a reader is left with the last one. -/
theorem field?_settled (cs : Children) (name : String) :
    Value.field? (Json.settleEntries [] cs.members) name =
      (Json.listed cs.members name).getLast? := by
  have settled : Json.settle ∘ (fun c => policyMembers c.2) =
      fun c : ResourceKind × UpdateStrategy => policyMembers c.2 := rfl
  rw [Json.field?_settleEntries names_of_members, listed_members, List.getLast?_map,
    Option.map_map, settled]
  exact Option.or_none

theorem listed_of_apart (distinct : cs.kinds.Nodup) (apart : cs.Apart)
    (found : cs.find? k = some u) : Json.listed cs.members k.display = [policyMembers u] := by
  have member : (k, u) ∈ cs := mem_of_find? found
  have only (c : ResourceKind × UpdateStrategy) (known : c ∈ cs) :
      c.1.display = k.display ↔ c = (k, u) := by
    constructor
    · intro shown
      have same := apart c.1 (List.mem_map_of_mem known) k (List.mem_map_of_mem member) shown
      exact List.inj_on_of_nodup_map distinct known member same
    · rintro rfl
      rfl
  have kept : cs.filter (fun c => c.1.display = k.display) = cs.filter (fun c => c = (k, u)) := by
    apply List.filter_congr
    intro c known
    exact decide_eq_decide.mpr (only c known)
  have once : cs.count (k, u) = 1 := List.count_eq_one_of_mem (List.Nodup.of_map _ distinct) member
  rw [listed_members, kept, List.filter_eq, once]
  rfl

/-- Kinds are apart exactly if one policy is listed for each. -/
theorem apart_iff_listed (distinct : cs.kinds.Nodup) :
    cs.Apart ↔
      ∀ k u, cs.find? k = some u → Json.listed cs.members k.display = [policyMembers u] := by
  constructor
  · intro apart k u found
    exact listed_of_apart distinct apart found
  · intro single j known k known' shown
    obtain ⟨⟨j, v⟩, member, rfl⟩ := List.mem_map.mp known
    obtain ⟨⟨k, u⟩, member', rfl⟩ := List.mem_map.mp known'
    have one := single k u (find?_of_mem distinct member')
    rw [listed_members, List.map_eq_singleton_iff] at one
    obtain ⟨c, only, _⟩ := one
    have kept (d : ResourceKind × UpdateStrategy) (among : d ∈ cs)
        (same : d.1.display = k.display) : d = c := by
      have listed : d ∈ cs.filter fun c => c.1.display = k.display :=
        List.mem_filter.mpr ⟨among, decide_eq_true same⟩
      rw [only] at listed
      exact List.mem_singleton.mp listed
    have pairs := (kept _ member shown).trans (kept _ member' rfl).symm
    exact congrArg Prod.fst pairs

/-- Kinds whose parts are names are apart unless they differ in nothing but the kind. -/
theorem apart_iff_of_named (named : ∀ k ∈ cs.kinds, k.Named) :
    cs.Apart ↔ ∀ j ∈ cs.kinds, ∀ k ∈ cs.kinds, j.group = k.group → j.version = k.version →
      j.plural = k.plural → j.kind = k.kind := by
  constructor
  · intro apart j known k known' groups versions plurals
    have shown := (ResourceKind.display_eq_iff (named j known) (named k known')).mpr
      ⟨groups, versions, plurals⟩
    rw [apart j known k known' shown]
  · intro told j known k known' shown
    obtain ⟨groups, versions, plurals⟩ :=
      (ResourceKind.display_eq_iff (named j known) (named k known')).mp shown
    have kinds := told j known k known' groups versions plurals
    obtain ⟨_, _, _, _⟩ := j
    obtain ⟨_, _, _, _⟩ := k
    cases groups
    cases versions
    cases kinds
    cases plurals
    rfl

end Children

namespace OperatorConfig

open Text Value

variable {c start : OperatorConfig} {edits : List Edit} {entries : List (Value × Value)}

/-! ### Declared types -/

/-- The parts that edits set are of the types they are declared with. -/
structure Typed (c : OperatorConfig) : Prop where
  namespaceName : c.namespaceName = .null ∨ ∃ s, c.namespaceName = .str s
  trackingLabel : ∃ s, c.trackingLabel = .str s
  ownershipLabel : ∃ s, c.ownershipLabel = .str s
  serverPort : (∃ i, c.serverPort = .int i) ∨ ∃ b, c.serverPort = .bool b
  exposeMetrics : ∃ b, c.exposeMetrics = .bool b
  exposeHealth : ∃ b, c.exposeHealth = .bool b

theorem checkNamespace_ok {v w : Value} (h : checkNamespace v = .ok w) :
    w = .null ∨ ∃ s, w = .str s := by
  obtain ⟨s, _, rfl⟩ := Check.map_ok.mp h
  cases s with
  | none => exact .inl rfl
  | some s => exact .inr ⟨s, rfl⟩

theorem optional_namespace_ok {w : Value}
    (h : Lax.optional entries "namespace" .null checkNamespace = .ok w) :
    w = .null ∨ ∃ s, w = .str s := by
  unfold Lax.optional at h
  split at h
  · exact checkNamespace_ok (Check.within_ok.mp h)
  · exact .inl (Except.ok.inj h).symm

theorem typed_of_check (h : check entries = .ok c) : c.Typed := by
  unfold check at h
  simp only [Check.also_ok, Check.map_ok] at h
  obtain ⟨_, _, ⟨_, _, ⟨_, _, ⟨_, _, ⟨_, _, ⟨_, _, ⟨_, _, ⟨_, _, ⟨_, _, rfl⟩, _, rfl⟩, space, rfl⟩,
    _, rfl⟩, ⟨tracking, _, rfl⟩, rfl⟩, ⟨ownership, _, rfl⟩, rfl⟩, ⟨port, _, rfl⟩, rfl⟩,
    ⟨metrics, _, rfl⟩, rfl⟩, ⟨health, _, rfl⟩, rfl⟩ := h
  exact ⟨optional_namespace_ok space, ⟨tracking, rfl⟩, ⟨ownership, rfl⟩, .inl ⟨port, rfl⟩,
    ⟨metrics, rfl⟩, ⟨health, rfl⟩⟩

theorem Typed.apply {e : Edit} (typed : c.Typed) (declared : e.Declared) : (c.apply e).Typed := by
  cases e with
  | namespaceName v => exact { typed with namespaceName := .inr declared }
  | trackingLabel v => exact { typed with trackingLabel := declared }
  | ownershipLabel v => exact { typed with ownershipLabel := declared }
  | serverPort v => exact { typed with serverPort := declared }
  | exposeMetrics v => exact { typed with exposeMetrics := declared }
  | exposeHealth v => exact { typed with exposeHealth := declared }
  | child k u => exact { typed with }

theorem Typed.applyAll (typed : c.Typed) (declared : ∀ e ∈ edits, e.Declared) :
    (c.applyAll edits).Typed := by
  induction edits generalizing c with
  | nil => exact typed
  | cons e rest ih =>
    obtain ⟨first, others⟩ := List.forall_mem_cons.mp declared
    exact ih (typed.apply first) others

/-! ### Dumping -/

theorem kindMembers_shallow (k : ResourceKind) (n : Nat) : Json.Shallow (n + 2) (kindMembers k) := by
  apply Json.Shallow.fields
  simp only [List.forall_mem_cons]
  exact ⟨.str _, .str _, .str _, .str _, fun _ none => absurd none List.not_mem_nil⟩

theorem childMembers_shallow (cs : Children) (n : Nat) :
    Json.Shallow (n + 3) (childMembers cs) := by
  apply Json.Shallow.fields
  intro m member
  obtain ⟨c, _, rfl⟩ := List.mem_map.mp member
  apply Json.Shallow.fields
  intro m only
  rw [List.mem_singleton.mp only]
  exact .str _

theorem Typed.dump_shallow (typed : c.Typed) (n : Nat) : Json.Shallow (n + 4) c.dump := by
  obtain ⟨space, ⟨tracking, first⟩, ⟨ownership, second⟩, port, ⟨metrics, third⟩, ⟨health, fourth⟩⟩ :=
    typed
  have namespaceName : Json.Shallow (n + 3) c.namespaceName := by
    rcases space with none | ⟨s, some⟩
    · exact none ▸ .null
    · exact some ▸ .str s
  have serverPort : Json.Shallow (n + 3) (asNumber c.serverPort) := by
    rcases port with ⟨i, number⟩ | ⟨b, truth⟩
    · exact number ▸ .int i
    · exact truth ▸ .int _
  apply Json.Shallow.fields
  simp only [List.forall_mem_cons]
  exact ⟨kindMembers_shallow _ _, childMembers_shallow _ _, namespaceName, .str _,
    first ▸ .str tracking, second ▸ .str ownership, serverPort, third ▸ .bool metrics,
    fourth ▸ .bool health, fun _ none => absurd none List.not_mem_nil⟩

theorem dumpText_ofValue (c : OperatorConfig) :
    (Finished.ofValue c).dumpText =
      match Json.obstacle? (Finished.maxLevels + 1) c.dump with
      | some o => .error (.undumpable o)
      | none => c.dumpJson.mapError Failure.ofWriting := by
  have obstacles : (Finished.ofValue c).obstacle? =
      Json.obstacle? (Finished.maxLevels + 1) c.dump := Option.or_none
  unfold Finished.dumpText
  rw [obstacles]
  cases Json.obstacle? (Finished.maxLevels + 1) c.dump <;> rfl

/-- A configuration is dumped exactly if its texts have bytes, and then as its dump is written. -/
theorem Typed.dumpText_ok_iff (typed : c.Typed) {line : String} :
    (Finished.ofValue c).dumpText = .ok line ↔
      c.dump.Plain Utf8.Encodable ∧ c.dumpJson = .ok line := by
  have free : _ ↔ c.dump.Plain Utf8.Encodable :=
    (typed.dump_shallow (Finished.maxLevels - 3)).obstacle?_eq_none
  rw [dumpText_ofValue, ← free]
  change _ ↔ Json.obstacle? (Finished.maxLevels + 1) c.dump = none ∧ _
  cases Json.obstacle? (Finished.maxLevels + 1) c.dump with
  | some o =>
    constructor
    · rintro ⟨⟩
    · rintro ⟨⟨⟩, _⟩
  | none => cases c.dumpJson <;> simp [Except.mapError]

/-! ### Reading a dump -/

/-- The members of `child_types` in what was read. -/
def childTypes? : Value → Option (List (Value × Value))
  | .map es =>
    match Value.field? es "child_types" with
    | some (.map members) => some members
    | _ => none
  | _ => none

theorem childTypes?_dump (c : OperatorConfig) : childTypes? c.dump = some c.children.members := by
  have other : (Value.str "parent").bare ≠ .str "child_types" := by simp [Value.bare]
  unfold dump Value.ofFields childTypes?
  simp only [List.map_cons]
  rw [Value.field?_cons_of_other other, Value.field?_cons_of_same rfl, Children.childMembers_eq]

theorem childTypes?_settle (c : OperatorConfig) :
    childTypes? (Json.settle c.dump) = some (Json.settleEntries [] c.children.members) := by
  unfold dump Value.ofFields
  rw [Json.settle]
  unfold childTypes?
  dsimp only
  rw [Json.field?_settleEntries]
  · simp only [List.map_cons, Json.listed_cons]
    simp [Json.listed, Children.childMembers_eq, Json.settle, Value.field?, Value.lookup?]
  · simp

/-- What a reader of a dump finds under `child_types`. -/
structure Tells (c : OperatorConfig) (line : String) : Prop where
  unbroken : ∀ char ∈ line.toList, 0x20 ≤ char.toNat
  members : (Json.parse? line).bind childTypes? = some c.children.members
  names : (c.children.members.map Prod.fst).Nodup ↔ c.children.Apart
  single : c.children.Apart ↔ ∀ k u, c.children.find? k = some u →
    Json.listed c.children.members k.display = [Children.policyMembers u]
  settled : ∃ members, (Json.read? line).bind childTypes? = some members ∧
    ∀ k : ResourceKind,
      Value.field? members k.display = (Json.listed c.children.members k.display).getLast?

theorem Typed.tells (typed : c.Typed) (distinct : c.children.kinds.Nodup) {line : String}
    (dumped : (Finished.ofValue c).dumpText = .ok line) : c.Tells line := by
  obtain ⟨_, written⟩ := typed.dumpText_ok_iff.mp dumped
  have shallow := typed.dump_shallow 0
  obtain ⟨_, same, unbroken, read⟩ := Json.parse?_write_compact shallow.plain
  obtain rfl := Except.ok.inj (written.symm.trans same)
  rw [shallow.shown_eq] at read
  have settled : (Json.read? line).bind childTypes? =
      some (Json.settleEntries [] c.children.members) := by
    rw [Json.read?, read]
    exact childTypes?_settle c
  refine ⟨unbroken, ?_, Children.names_nodup_iff distinct, Children.apart_iff_listed distinct,
    _, settled, fun k => Children.field?_settled c.children k.display⟩
  rw [read]
  exact childTypes?_dump c

/-- A dump exists exactly if all texts in it have bytes. It lists every child, under distinct names
exactly if no two kinds have the same display text; a reader of distinct names gets back one policy
for each kind. Kinds whose parts are names are told apart unless they differ in nothing but the
kind. -/
theorem dump_keeps_children_iff (checked : check entries = .ok start)
    (declared : ∀ e ∈ edits, e.Declared) :
    ∃ x, edits.foldlM Finished.edit (Finished.ofValue start) = .ok x ∧
      x.value = start.applyAll edits ∧ x.value.children.kinds.Nodup ∧
      ((∃ line, x.dumpText = .ok line) ↔ x.value.dump.Plain Utf8.Encodable) ∧
      (∀ line, x.dumpText = .ok line → x.value.Tells line) ∧
      ((∀ k ∈ x.value.children.kinds, k.Named) →
        (x.value.children.Apart ↔
          ∀ j ∈ x.value.children.kinds, ∀ k ∈ x.value.children.kinds, j.group = k.group →
            j.version = k.version → j.plural = k.plural → j.kind = k.kind)) := by
  have typed := (typed_of_check checked).applyAll declared
  have distinct := (built (distinct_of_check checked) edits).distinct
  refine ⟨.ofValue (start.applyAll edits), edits_ofValue start edits, rfl, distinct, ?_,
    fun line => typed.tells distinct, Children.apart_iff_of_named⟩
  constructor
  · rintro ⟨line, dumped⟩
    exact (typed.dumpText_ok_iff.mp dumped).1
  · intro encodable
    obtain ⟨line, written, _⟩ := Json.parse?_write_compact (typed.dump_shallow 0).plain
    exact ⟨line, typed.dumpText_ok_iff.mpr ⟨encodable, written⟩⟩

/-- A configuration for widgets, by its name and parent. -/
def widgets : OperatorConfig :=
  initial "operator" ⟨"example.com", "v1", "Widget", "widgets"⟩

theorem ofName_widgets : ofName (.str "operator") widgets.parent = .ok widgets := by
  unfold ofName check
  cbv

/-- Two kinds of one group and version are told apart by their plurals. -/
theorem plurals_kept_apart :
    let edits : List Edit := [.child .deployment .recreate, .child .statefulSet .onDelete]
    ∃ x line, edits.foldlM Finished.edit (Finished.ofValue widgets) = .ok x ∧
      x.dumpText = .ok line ∧ x.value.Tells line ∧ x.value.children.Apart := by
  intro edits
  have declared : ∀ e ∈ edits, e.Declared := by simp [edits, Edit.Declared]
  obtain ⟨x, made, value, _, exists_iff, tells, _⟩ :=
    dump_keeps_children_iff ofName_widgets declared
  have apart : x.value.children.Apart := value ▸ by decide +kernel
  have typed := (typed_of_check ofName_widgets).applyAll declared
  have encodable : x.value.dump.Plain Utf8.Encodable :=
    value ▸ (typed.dump_shallow 0).obstacle?_eq_none.mp (by decide +kernel)
  obtain ⟨line, dumped⟩ := exists_iff.mpr encodable
  exact ⟨x, line, made, dumped, tells line dumped, apart⟩

/-- Pods and nodes of one plural are two children, but share a name in the dump. A reader is left
with the policy of nodes for both. -/
theorem kinds_share_a_name :
    let node : ResourceKind := ⟨"", "v1", "Node", "pods"⟩
    let edits : List Edit := [.child .pod .recreate, .child node .replace]
    ∃ x line members, ofName (.str "operator") widgets.parent = .ok widgets ∧
      edits.foldlM Finished.edit (Finished.ofValue widgets) = .ok x ∧
      x.value.children.find? .pod = some .recreate ∧
      x.value.children.find? node = some .replace ∧ x.dumpText = .ok line ∧
      (Json.parse? line).bind childTypes? =
        some [(.str "v1/pods", Children.policyMembers .recreate),
          (.str "v1/pods", Children.policyMembers .replace)] ∧
      (Json.read? line).bind childTypes? = some members ∧
      Value.field? members "v1/pods" = some (Children.policyMembers .replace) := by
  intro node edits
  have declared : ∀ e ∈ edits, e.Declared := by simp [edits, Edit.Declared]
  have typed := (typed_of_check ofName_widgets).applyAll declared
  have distinct := (built (distinct_of_check ofName_widgets) edits).distinct
  obtain ⟨line, written, _⟩ := Json.parse?_write_compact (typed.dump_shallow 0).plain
  have encodable : (widgets.applyAll edits).dump.Plain Utf8.Encodable :=
    (typed.dump_shallow 0).obstacle?_eq_none.mp (by decide +kernel)
  have dumped := typed.dumpText_ok_iff.mpr ⟨encodable, written⟩
  have tells := typed.tells distinct dumped
  obtain ⟨members, read, last⟩ := tells.settled
  refine ⟨_, line, members, ofName_widgets, edits_ofValue widgets edits, by decide, by decide, dumped,
    tells.members, read, ?_⟩
  rw [show "v1/pods" = ResourceKind.pod.display by decide, last, Children.listed_members]
  rfl

end OperatorConfig
end ClusterAccess
