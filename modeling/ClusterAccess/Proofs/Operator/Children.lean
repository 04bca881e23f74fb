import ClusterAccess.Operator.Policy
import Mathlib.Data.List.Perm.Subperm

/-!
# Children as a map that remembers the order of insertion

Entries that are put one after the other leave one policy for each kind, the last one that was put
for it, at the place where its kind was put first (`find?_putAll`, `kinds_putAll`).
-/

namespace ClusterAccess

/-- The value that the last entry for a key gives. -/
def last {κ α : Type} [BEq κ] (entries : List (κ × α)) (key : κ) : Option α :=
  entries.reverse.lookup key

theorem last_cons {κ α : Type} [BEq κ] (entry : κ × α) (rest : List (κ × α)) (key : κ) :
    last (entry :: rest) key = (last rest key).or ([entry].lookup key) := by
  unfold last
  rw [List.reverse_cons, List.lookup_append]

section FirstOccurrences

variable {α : Type} [BEq α] [LawfulBEq α] {xs : List α} {x : α}

theorem eraseDups_of_nodup (h : xs.Nodup) : xs.eraseDups = xs := by
  induction xs with
  | nil => rfl
  | cons x rest ih =>
    obtain ⟨fresh, distinct⟩ := List.nodup_cons.mp h
    have kept : rest.filter (fun y => !y == x) = rest := by
      refine List.filter_eq_self.mpr fun y member => ?_
      have other : y ≠ x := fun same => fresh (same ▸ member)
      simpa using other
    rw [List.eraseDups_cons, kept, ih distinct]

/-- What occurs before is no first occurrence. -/
theorem eraseDups_append_cons (member : x ∈ xs) (rest : List α) :
    (xs ++ x :: rest).eraseDups = (xs ++ rest).eraseDups := by
  rw [List.eraseDups_append, List.eraseDups_append, List.cons_removeAll,
    if_neg (by simpa using member)]

end FirstOccurrences

namespace Children

def kinds (cs : Children) : List ResourceKind := cs.map Prod.fst

/-- Put entries one after the other. -/
def putAll (cs : Children) (entries : Children) : Children :=
  entries.foldl (fun cs c => put cs c.1 c.2) cs

variable {cs ds : Children} {k : ResourceKind} {u : UpdateStrategy}

theorem kinds_put (cs : Children) (k : ResourceKind) (u : UpdateStrategy) :
    kinds (put cs k u) = if k ∈ kinds cs then kinds cs else kinds cs ++ [k] := by
  induction cs with
  | nil => rfl
  | cons c rest ih =>
    obtain ⟨j, v⟩ := c
    unfold put
    by_cases known : j = k
    · rw [if_pos known]
      simp [kinds, known]
    · have other : k ≠ j := fun same => known same.symm
      unfold kinds at ih ⊢
      rw [if_neg known]
      simp only [List.map_cons, ih, List.mem_cons, other, false_or]
      split <;> rfl

theorem nodup_put (distinct : (kinds cs).Nodup) : (kinds (put cs k u)).Nodup := by
  rw [kinds_put]
  split
  · exact distinct
  · rename_i fresh
    refine List.nodup_append.mpr ⟨distinct, by simp, ?_⟩
    intro j known i member same
    obtain rfl := List.mem_singleton.mp member
    exact fresh (same ▸ known)

theorem nodup_putAll (entries : Children) (distinct : (kinds cs).Nodup) :
    (kinds (putAll cs entries)).Nodup := by
  induction entries generalizing cs with
  | nil => exact distinct
  | cons c rest ih => exact ih (nodup_put distinct)

/-- Kinds stand in the order in which they were put first. -/
theorem kinds_putAll (entries : Children) (distinct : (kinds cs).Nodup) :
    kinds (putAll cs entries) = (kinds cs ++ kinds entries).eraseDups := by
  induction entries generalizing cs with
  | nil =>
    change kinds cs = (kinds cs ++ []).eraseDups
    rw [List.append_nil, eraseDups_of_nodup distinct]
  | cons c rest ih =>
    obtain ⟨k, u⟩ := c
    change kinds (putAll (put cs k u) rest) = (kinds cs ++ k :: kinds rest).eraseDups
    rw [ih (nodup_put distinct), kinds_put]
    split
    · rename_i known
      rw [eraseDups_append_cons known]
    · rw [List.append_assoc, List.singleton_append]

/-- The last entry for a kind wins. -/
theorem find?_putAll (cs entries : Children) (k : ResourceKind) :
    find? (putAll cs entries) k = (last entries k).or (find? cs k) := by
  induction entries generalizing cs with
  | nil => rfl
  | cons c rest ih =>
    obtain ⟨j, u⟩ := c
    change find? (putAll (put cs j u) rest) k = _
    rw [ih, find?_put, last_cons, Option.or_assoc]
    congr 1
    by_cases same : k = j
    · simp [same]
    · simp [List.lookup_cons, same, beq_eq_false_iff_ne.mpr same]

/-! ### Comparing children -/

theorem find?_eq_none : find? cs k = none ↔ k ∉ kinds cs := by
  unfold find? kinds
  rw [List.lookup_eq_none_iff]
  constructor
  · intro absent member
    obtain ⟨c, listed, rfl⟩ := List.mem_map.mp member
    simpa using absent c listed
  · intro absent c listed
    have other : k ≠ c.1 := fun same => absent (List.mem_map.mpr ⟨c, listed, same.symm⟩)
    simpa using other

theorem mem_of_find? (h : find? cs k = some u) : (k, u) ∈ cs := by
  obtain ⟨before, after, rfl, _⟩ := List.lookup_eq_some_iff.mp h
  simp

theorem find?_of_mem (distinct : (kinds cs).Nodup) (member : (k, u) ∈ cs) :
    find? cs k = some u := by
  obtain ⟨before, after, rfl⟩ := List.append_of_mem member
  refine List.lookup_eq_some_iff.mpr ⟨before, after, rfl, fun c listed => ?_⟩
  unfold kinds at distinct
  rw [List.map_append, List.map_cons] at distinct
  have other := (List.nodup_append.mp distinct).2.2 c.1 (List.mem_map_of_mem listed) k
    List.mem_cons_self
  simpa using other.symm

/-- Children are the same if they have the same policy for every kind. -/
theorem same_iff (distinct : (kinds cs).Nodup) (distinct' : (kinds ds).Nodup) :
    same cs ds = true ↔ ∀ k, find? cs k = find? ds k := by
  have missing (k : ResourceKind) (h : find? cs k = find? ds k) : k ∈ kinds cs ↔ k ∈ kinds ds := by
    rw [← not_iff_not, ← find?_eq_none, ← find?_eq_none, h]
  unfold same
  rw [Bool.and_eq_true, beq_iff_eq, List.all_eq_true]
  constructor
  · rintro ⟨lengths, all⟩ k
    have held (k : ResourceKind) (u : UpdateStrategy) (member : (k, u) ∈ cs) :
        find? ds k = some u := by
      simpa using all (k, u) member
    cases found : find? cs k with
    | some u => exact (held k u (mem_of_find? found)).symm
    | none =>
      -- As many kinds on both sides, all of the first among the second: there are no others.
      have subset : kinds cs ⊆ kinds ds := by
        intro j member
        obtain ⟨⟨_, u⟩, listed, rfl⟩ := List.mem_map.mp member
        refine Classical.byContradiction fun absent => ?_
        have there := held _ _ listed
        rw [find?_eq_none.mpr absent] at there
        cases there
      have shuffled := (List.subperm_of_subset distinct subset).perm_of_length_le
        (by simp [kinds, lengths])
      refine (find?_eq_none.mpr fun member => ?_).symm
      exact find?_eq_none.mp found (shuffled.mem_iff.mpr member)
  · intro agree
    constructor
    · have shuffled := (List.perm_ext_iff_of_nodup distinct distinct').mpr fun k =>
        missing k (agree k)
      simpa [kinds] using shuffled.length_eq
    · rintro ⟨k, u⟩ listed
      rw [← agree k, find?_of_mem distinct listed]
      simp

end Children
end ClusterAccess
