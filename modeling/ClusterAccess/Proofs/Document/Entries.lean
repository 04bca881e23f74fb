import ClusterAccess.Document.Value

/-!
# Entries under text keys

A text key is found by the text alone (`same_str_iff`), so what is looked up under a name is the
first entry whose key is that text, and what is put under a name is what is found there afterwards.
-/

namespace ClusterAccess.Value

/-- The value without the knots around it. -/
def bare : Value → Value
  | .knot _ v => v.bare
  | v => v

/-- Nothing is the same as a text but the text itself. -/
theorem same_str_iff (v : Value) (s : String) : v.same (.str s) = true ↔ v.bare = .str s := by
  cases v with
  | knot n v =>
    have opened : (knot n v).same (.str s) = v.same (.str s) := by simp [same]
    rw [opened, bare]
    exact same_str_iff v s
  | str t => simp [same, bare]
  | _ => simp [same, bare, asInt?]

theorem same_texts_iff {s t : String} : (str s).same (.str t) = true ↔ s = t := by simp [same]

variable {entries : List (Value × Value)} {name : String} {v : Value}

theorem field?_eq_some_iff : field? entries name = some v ↔
    ∃ before key after, entries = before ++ (key, v) :: after ∧ key.bare = .str name ∧
      ∀ e ∈ before, e.1.bare ≠ .str name := by
  unfold field? lookup?
  rw [Option.map_eq_some_iff]
  constructor
  · rintro ⟨⟨key, _⟩, found, rfl⟩
    obtain ⟨same, before, after, parts, others⟩ := List.find?_eq_some_iff_append.mp found
    refine ⟨before, key, after, parts, (same_str_iff key name).mp same, fun e member named => ?_⟩
    have other := others e member
    rw [(same_str_iff e.1 name).mpr named] at other
    cases other
  · rintro ⟨before, key, after, parts, named, others⟩
    refine ⟨(key, v), List.find?_eq_some_iff_append.mpr ⟨?_, before, after, parts, ?_⟩, rfl⟩
    · exact (same_str_iff key name).mpr named
    · intro e member
      have other : ¬ e.1.same (.str name) = true := fun same =>
        others e member ((same_str_iff e.1 name).mp same)
      simpa using other

theorem field?_cons_of_same {key : Value} (named : key.bare = .str name) (v : Value)
    (rest : List (Value × Value)) : field? ((key, v) :: rest) name = some v := by
  have same := (same_str_iff key name).mpr named
  unfold field? lookup?
  rw [List.find?_cons, same]
  rfl

theorem field?_cons_of_other {key : Value} (other : key.bare ≠ .str name) (v : Value)
    (rest : List (Value × Value)) : field? ((key, v) :: rest) name = field? rest name := by
  have different : key.same (.str name) = false :=
    Bool.eq_false_iff.mpr fun same => other ((same_str_iff key name).mp same)
  unfold field? lookup?
  rw [List.find?_cons, different]

/-- What is put under a text key is found there, and everything else as before. -/
theorem field?_put (entries : List (Value × Value)) (key name : String) (v : Value) :
    field? (put entries (.str key) v) name = if key = name then some v else field? entries name := by
  have under (k : Value) (named : k.bare = .str key) (rest : List (Value × Value)) :
      field? ((k, v) :: rest) name = if key = name then some v else field? rest name := by
    split
    case isTrue same => exact field?_cons_of_same (named.trans (congrArg _ same)) v rest
    case isFalse other =>
      exact field?_cons_of_other (fun same => other (str.inj (named.symm.trans same))) v rest
  induction entries with
  | nil => exact under (.str key) rfl []
  | cons e rest ih =>
    obtain ⟨k, w⟩ := e
    unfold put
    split
    case isTrue same =>
      have named := (same_str_iff k key).mp same
      rw [under k named]
      by_cases asked : key = name
      · rw [if_pos asked, if_pos asked]
      · rw [if_neg asked, if_neg asked,
          field?_cons_of_other fun same => asked (str.inj (named.symm.trans same))]
    case isFalse different =>
      by_cases asked : k.bare = .str name
      · have other : key ≠ name := by
          rintro rfl
          exact different ((same_str_iff k key).mpr asked)
        rw [if_neg other, field?_cons_of_same asked, field?_cons_of_same asked]
      · rw [field?_cons_of_other asked, field?_cons_of_other asked, ih]

end ClusterAccess.Value
