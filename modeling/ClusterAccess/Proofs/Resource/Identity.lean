import ClusterAccess.Proofs.Document.Entries
import ClusterAccess.Proofs.Text.Separated
import ClusterAccess.Resource.Validation

/-!
# Kinds told apart by their texts

Groups, versions and plurals are names without slashes. So an API version tells the group and the
version, although the core group leaves no trace in it, and the display text tells the plural too.
An object carries an API version and a kind, and so does a reference (`texts_identify`).
-/

namespace ClusterAccess

/-! ### Texts that objects carry -/

/-- The first entry of an object with this name has this text. -/
def Carries (object : List (Value × Value)) (name text : String) : Prop :=
  ∃ before key v after, object = before ++ (key, v) :: after ∧ key.bare = .str name ∧
    v.bare = .str text ∧ ∀ e ∈ before, e.1.bare ≠ .str name

variable {object : List (Value × Value)} {name text text' : String}

theorem carries_iff :
    (Value.field object name).same (.str text) = true ↔ Carries object name text := by
  unfold Value.field
  rw [Value.same_str_iff]
  constructor
  · intro carried
    cases found : Value.field? object name with
    | none =>
      rw [found] at carried
      cases carried
    | some v =>
      rw [found] at carried
      obtain ⟨before, key, after, parts, named, others⟩ := Value.field?_eq_some_iff.mp found
      exact ⟨before, key, v, after, parts, named, carried, others⟩
  · rintro ⟨before, key, v, after, parts, named, carried, others⟩
    rw [Value.field?_eq_some_iff.mpr ⟨before, key, after, parts, named, others⟩]
    exact carried

/-- An object carries one text under a name at most. -/
theorem Carries.unique (h : Carries object name text) (h' : Carries object name text') :
    text = text' := by
  have first := (Value.same_str_iff _ text).mp (carries_iff.mpr h)
  have second := (Value.same_str_iff _ text').mp (carries_iff.mpr h')
  exact Value.str.inj (first.symm.trans second)

theorem matchesObject_iff {r : KindReference} : r.matchesObject object = true ↔
    Carries object "apiVersion" r.apiVersion ∧ Carries object "kind" r.kind := by
  unfold KindReference.matchesObject
  rw [Bool.and_eq_true, carries_iff, carries_iff]

namespace ResourceKind

variable {a b : ResourceKind}

/-! ### Texts of kinds -/

/-- The group, the version and the plural are names without slashes. -/
structure Named (k : ResourceKind) : Prop where
  group : '/' ∉ k.group.toList
  version : '/' ∉ k.version.toList
  plural : '/' ∉ k.plural.toList

theorem apiVersion_core {k : ResourceKind} (core : k.group = "") : k.apiVersion = k.version :=
  if_pos core

theorem toList_apiVersion {k : ResourceKind} (outside : k.group ≠ "") :
    k.apiVersion.toList = k.group.toList ++ '/' :: k.version.toList := by
  unfold apiVersion
  rw [if_neg outside, Text.toList_joined '/' rfl]

theorem toList_display (k : ResourceKind) :
    k.display.toList = k.apiVersion.toList ++ '/' :: k.plural.toList :=
  Text.toList_joined '/' rfl k.apiVersion k.plural

/-- Outside the core group there is a slash in the API version. -/
theorem apiVersion_ne (core : a.group = "") (outside : b.group ≠ "")
    (free : '/' ∉ a.version.toList) : a.apiVersion ≠ b.apiVersion := by
  intro same
  have slash : '/' ∈ b.apiVersion.toList := by
    rw [toList_apiVersion outside]
    exact List.mem_append_right _ List.mem_cons_self
  rw [← same, apiVersion_core core] at slash
  exact free slash

theorem apiVersion_eq_iff (named : a.Named) (named' : b.Named) :
    a.apiVersion = b.apiVersion ↔ a.group = b.group ∧ a.version = b.version := by
  constructor
  · intro same
    by_cases core : a.group = ""
    · by_cases core' : b.group = ""
      · rw [apiVersion_core core, apiVersion_core core'] at same
        exact ⟨core.trans core'.symm, same⟩
      · exact absurd same (apiVersion_ne core core' named.version)
    · by_cases core' : b.group = ""
      · exact absurd same.symm (apiVersion_ne core' core named'.version)
      · rw [← String.toList_inj, toList_apiVersion core, toList_apiVersion core',
          Text.append_cons_inj_left named.group named'.group] at same
        exact ⟨String.toList_inj.mp same.1, String.toList_inj.mp same.2⟩
  · rintro ⟨groups, versions⟩
    unfold apiVersion
    rw [groups, versions]

theorem display_eq_iff (named : a.Named) (named' : b.Named) :
    a.display = b.display ↔ a.group = b.group ∧ a.version = b.version ∧ a.plural = b.plural := by
  rw [← String.toList_inj, toList_display, toList_display,
    Text.append_cons_inj_right named.plural named'.plural, String.toList_inj, String.toList_inj,
    apiVersion_eq_iff named named', and_assoc]

theorem reference_eq_iff (named : a.Named) (named' : b.Named) :
    a.reference = b.reference ↔ a.group = b.group ∧ a.version = b.version ∧ a.kind = b.kind := by
  unfold reference
  rw [KindReference.mk.injEq, apiVersion_eq_iff named named', and_assoc]

/-- The texts of kinds whose parts are names tell these parts. -/
theorem texts_identify (named : a.Named) (named' : b.Named) :
    (a.apiVersion = b.apiVersion ↔ a.group = b.group ∧ a.version = b.version) ∧
    (a.display = b.display ↔ a.group = b.group ∧ a.version = b.version ∧ a.plural = b.plural) ∧
    (∀ object, a.reference.matchesObject object = true ↔
      Carries object "apiVersion" a.apiVersion ∧ Carries object "kind" a.kind) ∧
    (∀ object, Carries object "apiVersion" b.apiVersion → Carries object "kind" b.kind →
      (a.reference.matchesObject object = true ↔
        a.group = b.group ∧ a.version = b.version ∧ a.kind = b.kind)) ∧
    (a.reference = b.reference ↔ a.group = b.group ∧ a.version = b.version ∧ a.kind = b.kind) := by
  refine ⟨apiVersion_eq_iff named named', display_eq_iff named named', fun _ => matchesObject_iff,
    fun object version kind => ?_, reference_eq_iff named named'⟩
  rw [matchesObject_iff, ← reference_eq_iff named named']
  constructor
  · rintro ⟨version', kind'⟩
    have versions : a.apiVersion = b.apiVersion := version'.unique version
    have kinds : a.kind = b.kind := kind'.unique kind
    unfold reference
    rw [versions, kinds]
  · intro same
    rw [same]
    exact ⟨version, kind⟩

/-- A kind of the core group whose display text is the API version of a kind of another group, which
has no version. -/
theorem unversioned_identified :
    let a : ResourceKind := ⟨"", "apps", "Scale", ""⟩
    let b : ResourceKind := ⟨"apps", "", "Scale", "scales"⟩
    let object : List (Value × Value) :=
      [(.str "kind", .str "Scale"), (.str "apiVersion", .str "apps/")]
    a.Named ∧ b.Named ∧ a.display = b.apiVersion ∧ a.apiVersion ≠ b.apiVersion ∧
      Carries object "apiVersion" b.apiVersion ∧ Carries object "kind" b.kind ∧
      a.reference.matchesObject object = false ∧ b.reference.matchesObject object = true := by
  intro a b object
  have named : a.Named := ⟨by decide, by decide, by decide⟩
  have named' : b.Named := ⟨by decide, by decide, by decide⟩
  have version : Carries object "apiVersion" b.apiVersion := carries_iff.mp (by decide +kernel)
  have kind : Carries object "kind" b.kind := carries_iff.mp (by decide +kernel)
  obtain ⟨versions, _, _, matched, _⟩ := texts_identify named named'
  have itself := (texts_identify named' named').2.2.2.1 object version kind
  refine ⟨named, named', by decide, fun same => absurd (versions.mp same).1 (by decide), version, kind,
    ?_, itself.mpr ⟨rfl, rfl, rfl⟩⟩
  rw [← Bool.not_eq_true]
  exact fun carried => absurd ((matched object version kind).mp carried).1 (by decide)

end ResourceKind
end ClusterAccess
