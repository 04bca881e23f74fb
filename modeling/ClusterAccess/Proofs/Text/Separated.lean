
/-!
# Two texts with a separator between them

If the separator does not occur in what stands before it, or not in what stands behind it, the whole
tells both parts.
-/

namespace ClusterAccess.Text

variable {sep : Char} {l l' r r' : List Char}

/-- The first separator is where the parts meet. -/
theorem append_cons_inj_left (free : sep ∉ l) (free' : sep ∉ l') :
    l ++ sep :: r = l' ++ sep :: r' ↔ l = l' ∧ r = r' := by
  constructor
  · intro same
    induction l generalizing l' with
    | nil =>
      cases l' with
      | nil => exact ⟨rfl, (List.cons.inj same).2⟩
      | cons d rest' =>
        have first : sep = d := (List.cons.inj same).1
        exact absurd List.mem_cons_self (first ▸ free')
    | cons c rest ih =>
      cases l' with
      | nil =>
        have first : c = sep := (List.cons.inj same).1
        exact absurd List.mem_cons_self (first ▸ free)
      | cons d rest' =>
        obtain ⟨first, others⟩ := List.cons.inj same
        have rest_free : sep ∉ rest := fun member => free (List.mem_cons_of_mem c member)
        have rest_free' : sep ∉ rest' := fun member => free' (List.mem_cons_of_mem d member)
        obtain ⟨rests, behind⟩ := ih rest_free rest_free' others
        exact ⟨by rw [first, rests], behind⟩
  · rintro ⟨rfl, rfl⟩
    rfl

/-- The last separator is where the parts meet. -/
theorem append_cons_inj_right (free : sep ∉ r) (free' : sep ∉ r') :
    l ++ sep :: r = l' ++ sep :: r' ↔ l = l' ∧ r = r' := by
  have turned (l r : List Char) : (l ++ sep :: r).reverse = r.reverse ++ sep :: l.reverse := by simp
  have turned_free : sep ∉ r.reverse := by simpa using free
  have turned_free' : sep ∉ r'.reverse := by simpa using free'
  rw [← List.reverse_inj, turned, turned, append_cons_inj_left turned_free turned_free',
    List.reverse_inj, List.reverse_inj, and_comm]

theorem toList_joined (sep : Char) {between : String} (single : between.toList = [sep])
    (s t : String) : (s ++ between ++ t).toList = s.toList ++ sep :: t.toList := by
  rw [String.toList_append, String.toList_append, single, List.append_assoc, List.singleton_append]

end ClusterAccess.Text
