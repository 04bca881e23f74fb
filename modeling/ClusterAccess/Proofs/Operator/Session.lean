import ClusterAccess.Proofs.Operator.Builder

/-!
# Configurations that branch

Many configurations can be made from one. What exists stays as it is, whatever is made from it and
whatever is refused (`Session.keeps`), and everything in a session was made by some of its edits
(`run_grown`).
-/

namespace ClusterAccess

/-! ### Assignments -/

namespace Finished

variable {x y : Finished OperatorConfig} {name : String} {v : Value}

theorem assign_value (h : x.assign name v = .ok y) : y.value = x.value := by
  unfold assign at h
  obtain ⟨attributes, _, h⟩ := result_bind_ok.mp h
  rw [← Except.ok.inj h]

/-- A name without an underscore in front can never be assigned to. -/
theorem assign_field (x : Finished OperatorConfig) (field : Attributes.isFieldName name = true) :
    ∃ e, x.assign name v = .error e := by
  unfold assign Attributes.set
  rw [if_pos field]
  cases (x.attributes.callSetters name).mapError AssignmentError.misuse with
  | error e => exact ⟨_, rfl⟩
  | ok _ => exact ⟨_, rfl⟩

end Finished

namespace OperatorConfig

variable {start : OperatorConfig} {e : Failure}

namespace Session

variable {s : Session}

def Action.edits : Action → List Edit
  | .edit _ e => [e]
  | _ => []

def Action.assigns : Action → Bool
  | .assign _ _ _ => true
  | _ => false

/-- Every assignment of an attribute among the actions is refused when its turn comes. -/
def Refuses (s : Session) : List Action → Prop
  | [] => True
  | a :: rest => (a.assigns = true → ∃ e, (s.step a).2 = .error e) ∧ Refuses (s.step a).1 rest

def values (s : Session) : List OperatorConfig := s.configs.map Finished.value

/-- What exists in a session stays as it is. -/
structure Keeps (s : Session) : Prop where
  refused : ∀ a e, (s.step a).2 = .error e → (s.step a).1 = s
  fields : ∀ position name v, position < s.configs.length → Attributes.isFieldName name = true →
    ∃ e, (s.step (.assign position name v)).2 = .error e
  children : ∀ position k u, position < s.configs.length →
    (s.step (.assignChild position k u)).2 = .error .readOnlyChildren
  values : ∀ actions, s.values <+: (s.run actions).values
  configs : ∀ actions, s.Refuses actions → s.configs <+: (s.run actions).configs

/-! ### One action -/

theorem add_error {made : Except Failure (Finished OperatorConfig)}
    (h : (s.add made).2 = .error e) : (s.add made).1 = s := by
  unfold add at h ⊢
  cases made with
  | error e' => rfl
  | ok x => cases h

theorem replace_error {position : Nat} {made : Except Failure (Finished OperatorConfig)}
    (h : (s.replace position made).2 = .error e) : (s.replace position made).1 = s := by
  unfold replace at h ⊢
  cases made with
  | error e' => rfl
  | ok x => cases h

/-- What an action can come to. -/
inductive Outcome (s : Session) : Action → Session × Except Failure Unit → Prop
  | missing {a : Action} : Outcome s a (s, .ok ())
  | edited {position : Nat} {e : Edit} {x : Finished OperatorConfig}
      (there : s.configs[position]? = some x) : Outcome s (.edit position e) (s.add (x.edit e))
  | assigned {position : Nat} {name : String} {v : Value} {x : Finished OperatorConfig}
      (there : s.configs[position]? = some x) :
      Outcome s (.assign position name v) (s.replace position (x.assign name v))
  | readOnly {position : Nat} {k : ResourceKind} {u : UpdateStrategy} :
      Outcome s (.assignChild position k u) (s, .error .readOnlyChildren)

theorem step_outcome (s : Session) (a : Action) : Outcome s a (s.step a) := by
  unfold step
  cases a with
  | edit position e =>
    dsimp only
    cases there : s.configs[position]? with
    | none => exact .missing
    | some x => exact .edited there
  | assign position name v =>
    dsimp only
    cases there : s.configs[position]? with
    | none => exact .missing
    | some x => exact .assigned there
  | assignChild position k u =>
    dsimp only
    cases s.configs[position]? with
    | none => exact .missing
    | some x => exact .readOnly

theorem step_error {a : Action} (h : (s.step a).2 = .error e) : (s.step a).1 = s := by
  have outcome := step_outcome s a
  generalize s.step a = after at h outcome ⊢
  cases outcome with
  | missing => rfl
  | edited there => exact add_error h
  | assigned there => exact replace_error h
  | readOnly => rfl

theorem prefix_of_eq {α : Type} {xs ys : List α} (h : xs = ys) : xs <+: ys := by
  subst h
  exact List.prefix_refl _

theorem add_configs (made : Except Failure (Finished OperatorConfig)) :
    s.configs <+: (s.add made).1.configs := by
  unfold add
  cases made with
  | error e => exact List.prefix_refl _
  | ok x => exact List.prefix_append _ _

theorem replace_values {position : Nat} {x : Finished OperatorConfig}
    {made : Except Failure (Finished OperatorConfig)} (there : s.configs[position]? = some x)
    (kept : ∀ y, made = .ok y → y.value = x.value) :
    (s.replace position made).1.values = s.values := by
  unfold replace
  cases made with
  | error e => rfl
  | ok y =>
    have held : (s.configs.map Finished.value)[position]? = some y.value := by
      rw [List.getElem?_map, there, kept y rfl]
      rfl
    unfold values
    dsimp only
    rw [List.map_set]
    refine List.ext_getElem? fun i => ?_
    rw [List.getElem?_set]
    split
    · rename_i same
      subst same
      rw [held, if_pos (List.getElem?_eq_some_iff.mp held).1]
    · rfl

theorem step_configs {a : Action} (refused : a.assigns = true → ∃ e, (s.step a).2 = .error e) :
    s.configs <+: (s.step a).1.configs := by
  have outcome := step_outcome s a
  generalize s.step a = after at refused outcome ⊢
  cases outcome with
  | missing => exact List.prefix_refl _
  | edited there => exact add_configs _
  | assigned there =>
    obtain ⟨e, h⟩ := refused rfl
    exact prefix_of_eq (congrArg configs (replace_error h)).symm
  | readOnly => exact List.prefix_refl _

/-- Even an attribute that is assigned changes no field. -/
theorem step_values (s : Session) (a : Action) : s.values <+: (s.step a).1.values := by
  have outcome := step_outcome s a
  generalize s.step a = after at outcome ⊢
  cases outcome with
  | missing => exact List.prefix_refl _
  | edited there => exact (add_configs _).map _
  | assigned there =>
    exact prefix_of_eq (replace_values there fun y => Finished.assign_value).symm
  | readOnly => exact List.prefix_refl _

/-! ### Runs -/

theorem run_values (s : Session) (actions : List Action) : s.values <+: (s.run actions).values := by
  induction actions generalizing s with
  | nil => exact List.prefix_refl _
  | cons a rest ih => exact (step_values s a).trans (ih (s.step a).1)

theorem run_configs {actions : List Action} (h : s.Refuses actions) :
    s.configs <+: (s.run actions).configs := by
  induction actions generalizing s with
  | nil => exact List.prefix_refl _
  | cons a rest ih => exact (step_configs h.1).trans (ih h.2)

theorem keeps (s : Session) : s.Keeps := by
  refine ⟨fun a e => step_error, ?_, ?_, run_values s, fun actions => run_configs⟩
  · intro position name v inside field
    obtain ⟨e, refused⟩ := (s.configs[position]).assign_field field (v := v)
    refine ⟨e, ?_⟩
    unfold step
    dsimp only
    rw [List.getElem?_eq_getElem inside]
    dsimp only
    rw [refused]
    rfl
  · intro position k u inside
    unfold step
    dsimp only
    rw [List.getElem?_eq_getElem inside]
    rfl

/-! ### Where the configurations come from -/

/-- Every configuration of a session is the first one after some of the edits made so far. -/
def Grown (start : OperatorConfig) (made : List Edit) (s : Session) : Prop :=
  ∀ x ∈ s.configs, ∃ edits, edits.Sublist made ∧ x = .ofValue (start.applyAll edits)

variable {made : List Edit}

theorem Grown.more (h : Grown start made s) (later : List Edit) : Grown start (made ++ later) s := by
  intro x member
  obtain ⟨edits, among, rfl⟩ := h x member
  exact ⟨edits, among.trans (List.sublist_append_left _ _), rfl⟩

theorem step_grown (h : Grown start made s) {a : Action}
    (refused : a.assigns = true → ∃ e, (s.step a).2 = .error e) :
    Grown start (made ++ a.edits) (s.step a).1 := by
  have outcome := step_outcome s a
  generalize s.step a = after at refused outcome ⊢
  cases outcome with
  | missing => exact h.more _
  | @edited position e x there =>
    obtain ⟨edits, among, rfl⟩ := h x (List.mem_of_getElem? there)
    rw [edit_ofValue]
    intro y member
    rcases List.mem_append.mp member with old | new
    · exact h.more _ y old
    · obtain rfl := List.mem_singleton.mp new
      refine ⟨edits ++ [e], among.append (List.Sublist.refl _), ?_⟩
      unfold applyAll
      rw [List.foldl_append]
      rfl
  | assigned there =>
    obtain ⟨e, error⟩ := refused rfl
    rw [replace_error error]
    exact h.more _
  | readOnly => exact h.more _

theorem run_grown {actions : List Action} (h : Grown start made s) (refuses : s.Refuses actions) :
    Grown start (made ++ actions.flatMap Action.edits) (s.run actions) := by
  induction actions generalizing s made with
  | nil => exact h.more _
  | cons a rest ih =>
    have grown := ih (step_grown h refuses.1) refuses.2
    rw [List.append_assoc] at grown
    exact grown

end Session

/-! ### The builder -/

theorem same_ofValue (c d : OperatorConfig) :
    (Finished.ofValue c).same (.ofValue d) = .ok (c.same d) := by
  have plain (fields : Bool) : Attributes.same {} {} fields = .ok fields := by
    cases fields <;> cbv
  unfold Finished.same Finished.ofValue
  dsimp only
  rw [plain]
  rfl

/-- From a configuration that passed validation, edits lead to one in which the last edit of each
part and of each kind of child counts, in any order of the others, and no configuration that exists
is ever changed. -/
theorem last_edit_wins {entries : List (Value × Value)} (checked : check entries = .ok start) :
    start.children.kinds = (givenChildren entries).kinds.eraseDups ∧
    (∀ edits, edits.foldlM Finished.edit (.ofValue start) = .ok (.ofValue (start.applyAll edits)) ∧
      Built start edits (start.applyAll edits)) ∧
    (∀ entries' start' edits edits', check entries' = .ok start' → start.same start' = true →
      (∀ f, SameWrite (last (writes edits) f) (last (writes edits') f)) →
      (∀ k, last (childWrites edits) k = last (childWrites edits') k) →
      (Finished.ofValue (start.applyAll edits)).same (.ofValue (start'.applyAll edits')) = .ok true) ∧
    (∀ edits, (∀ e ∈ edits, e.Declared) →
      ∀ f, SameWrite (last (writes edits) f) (last (writes edits) f)) ∧
    (∀ actions, Session.Refuses { configs := [.ofValue start] } actions →
      (Session.run { configs := [.ofValue start] } actions).Grown start
        (actions.flatMap Session.Action.edits)) ∧
    ∀ s : Session, s.Keeps := by
  have distinct := distinct_of_check checked
  refine ⟨order_of_check checked, fun edits => ⟨edits_ofValue start edits, built distinct edits⟩, ?_,
    fun edits => sameWrite_of_declared, ?_, Session.keeps⟩
  · intro entries' start' edits edits' checked' starts parts children
    have distinct' := distinct_of_check checked'
    rw [same_ofValue, (built distinct edits).same (built distinct' edits') starts distinct distinct'
      parts children]
  · intro actions refuses
    have grown : Session.Grown start [] { configs := [.ofValue start] } := by
      intro x member
      obtain rfl := List.mem_singleton.mp member
      exact ⟨[], List.Sublist.refl _, rfl⟩
    exact Session.run_grown grown refuses

def sampleFields : List (Value × Value) :=
  [(.str "parent", .kind .deployment), (.str "operator_name", .str "x"),
    (.str "child_types", .map [(.kind .pod, .map [(.str "update_strategy", .str "Recreate")])])]

def sampleStart : OperatorConfig :=
  { OperatorConfig.initial "x" .deployment with children := [(.pod, .recreate)] }

def sampleEdits : List Edit :=
  [.serverPort (.int 1), .child .service .replace, .exposeHealth (.bool false),
    .child .pod .onDelete, .serverPort (.int 9090)]

def sampleEdits' : List Edit :=
  [.child .pod .onDelete, .serverPort (.int 9090), .child .service .recreate,
    .child .service .replace, .exposeHealth (.bool false)]

theorem sampleFields_checked : check sampleFields = .ok sampleStart := by
  have policy : checkPolicyValue (.map [(.str "update_strategy", .str "Recreate")]) =
      .ok .recreate := by cbv
  have child : checkChild (.kind .pod, .map [(.str "update_strategy", .str "Recreate")]) =
      .ok (.pod, .recreate) := by
    unfold checkChild
    rw [policy]
    rfl
  have given : Value.field? sampleFields "child_types" =
      some (.map [(.kind .pod, .map [(.str "update_strategy", .str "Recreate")])]) := by cbv
  have children : Lax.optional sampleFields "child_types" [] checkChildren =
      .ok [(.pod, .recreate)] := by
    unfold Lax.optional
    rw [given]
    unfold checkChildren
    simp only [List.foldl_cons, List.foldl_nil]
    unfold addChild
    rw [child]
    rfl
  unfold check
  rw [children]
  cbv

/-- Two ways to the same configuration. -/
theorem sample_edits_agree :
    check sampleFields = .ok sampleStart ∧
    (sampleStart.applyAll sampleEdits).children.kinds = [.pod, .service] ∧
    (sampleStart.applyAll sampleEdits).get .serverPort = .int 9090 ∧
    (Finished.ofValue (sampleStart.applyAll sampleEdits)).same
      (.ofValue (sampleStart.applyAll sampleEdits')) = .ok true := by
  obtain ⟨_, each, agree, declared, _⟩ := last_edit_wins sampleFields_checked
  have first := (each sampleEdits).2
  have same : sampleStart.same sampleStart = true := by cbv
  refine ⟨sampleFields_checked, ?_, ?_, ?_⟩
  · rw [first.order]
    cbv
  · rw [first.part]
    cbv
  · refine agree _ _ _ sampleEdits' sampleFields_checked same (fun f => ?_) fun k => ?_
    · have alike : last (writes sampleEdits') f = last (writes sampleEdits) f := by
        cases f <;> rfl
      rw [alike]
      refine declared sampleEdits ?_ f
      simp [sampleEdits, Edit.Declared]
    · change [(ResourceKind.pod, UpdateStrategy.onDelete), (.service, .replace)].lookup k =
        [(ResourceKind.service, UpdateStrategy.replace), (.service, .recreate),
          (.pod, .onDelete)].lookup k
      by_cases pod : k = .pod
      · subst pod
        rfl
      · by_cases service : k = .service
        · subst service
          rfl
        · simp [List.lookup_cons, beq_eq_false_iff_ne.mpr pod, beq_eq_false_iff_ne.mpr service]

end OperatorConfig
end ClusterAccess
