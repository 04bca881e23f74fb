import ClusterAccess.Text.Utf8
import Mathlib.Data.List.TakeWhile

/-!
# Surrogates in joined texts

A text without surrogates behind another one changes nothing about the surrogates that are found
(`surrogates?_append`). A text without any has bytes (`surrogates?_eq_none`).
-/

namespace ClusterAccess.Text.Utf8

/-- `surrogates?` where none are spared, for any way to tell surrogates. With the way that texts
use, proofs by computation would count its large offset down to zero. -/
def firstRun (found? : Char → Option Nat) (cs : List Char) : Option (Nat × Nat × Nat) :=
  let before := cs.takeWhile fun c => !(found? c).any fun _ => true
  match cs.drop before.length with
  | [] => none
  | c :: rest =>
    let more := rest.takeWhile fun c => (found? c).isSome
    (found? c).map fun n => (n, before.length, before.length + 1 + more.length)

theorem surrogates?_eq_firstRun (cs : List Char) :
    surrogates? (fun _ => true) cs = firstRun Utf16.surrogate? cs := rfl

section Runs

variable {found? : Char → Option Nat}

theorem firstRun_cons_none {c : Char} (plain : found? c = none) (rest : List Char) :
    firstRun found? (c :: rest) =
      (firstRun found? rest).map fun r => (r.1, r.2.1 + 1, r.2.2 + 1) := by
  unfold firstRun
  simp only [List.takeWhile_cons, plain, Option.any_none, Bool.not_false, if_true, List.length_cons,
    List.drop_succ_cons]
  cases rest.drop (rest.takeWhile fun c => !(found? c).any fun _ => true).length with
  | nil => rfl
  | cons d more =>
    dsimp only
    cases found? d with
    | none => rfl
    | some n =>
      simp only [Option.map_some, Option.some.injEq, Prod.mk.injEq, true_and]
      omega

theorem firstRun_cons_some {c : Char} {n : Nat} (surrogate : found? c = some n)
    (rest : List Char) : firstRun found? (c :: rest) =
      some (n, 0, 1 + (rest.takeWhile fun c => (found? c).isSome).length) := by
  simp [firstRun, surrogate]

theorem none_of_firstRun {cs : List Char} (h : firstRun found? cs = none) :
    ∀ c ∈ cs, found? c = none := by
  induction cs with
  | nil => exact fun c member => absurd member List.not_mem_nil
  | cons c rest ih =>
    cases first : found? c with
    | some n =>
      rw [firstRun_cons_some first] at h
      cases h
    | none =>
      rw [firstRun_cons_none first, Option.map_eq_none_iff] at h
      intro d member
      rcases List.mem_cons.mp member with rfl | later
      · exact first
      · exact ih h d later

theorem firstRun_append {ys : List Char} (plain : firstRun found? ys = none) (xs : List Char) :
    firstRun found? (xs ++ ys) = firstRun found? xs := by
  have noMore : ys.takeWhile (fun c => (found? c).isSome) = [] := by
    cases ys with
    | nil => rfl
    | cons c rest =>
      have first := none_of_firstRun plain c List.mem_cons_self
      rw [List.takeWhile_cons, first]
      rfl
  induction xs with
  | nil => exact plain
  | cons c rest ih =>
    rw [List.cons_append]
    cases first : found? c with
    | none => rw [firstRun_cons_none first, firstRun_cons_none first, ih]
    | some n =>
      rw [firstRun_cons_some first, firstRun_cons_some first, List.takeWhile_append, noMore,
        List.append_nil]
      split
      · rename_i whole
        rw [whole]
      · rfl

end Runs

/-- None is found exactly if every character passes. -/
theorem surrogates?_eq_none_iff {refused : Nat → Bool} {cs : List Char} :
    surrogates? refused cs = none ↔ ∀ c ∈ cs, (Utf16.surrogate? c).any refused = false := by
  unfold surrogates?
  generalize Utf16.surrogate? = found?
  dsimp only
  have rest : cs.drop (cs.takeWhile fun c => !(found? c).any refused).length =
      cs.dropWhile fun c => !(found? c).any refused :=
    (congrArg (List.drop _) List.takeWhile_append_dropWhile.symm).trans List.drop_left
  rw [rest]
  cases left : cs.dropWhile fun c => !(found? c).any refused with
  | nil =>
    have all := List.dropWhile_eq_nil_iff.mp left
    exact ⟨fun _ c member => by simpa using all c member, fun _ => rfl⟩
  | cons c more =>
    -- The character that stops the search is refused, and so stands for a surrogate.
    have stops : (found? c).any refused = true := by
      have first := List.head?_dropWhile_not (fun c => !(found? c).any refused) cs
      rw [left] at first
      simpa using first
    have member : c ∈ cs := by
      have suffix := List.dropWhile_suffix (fun c => !(found? c).any refused) (l := cs)
      exact suffix.subset (left ▸ List.mem_cons_self)
    constructor
    · intro none
      dsimp only at none
      rw [Option.map_eq_none_iff.mp none] at stops
      cases stops
    · intro passes
      rw [passes c member] at stops
      cases stops

/-- No character stands for a surrogate, so the text has bytes. -/
def Encodable (s : String) : Prop :=
  ∀ c ∈ s.toList, Utf16.surrogate? c = none

theorem surrogates?_eq_none {s : String} :
    surrogates? (fun _ => true) s.toList = none ↔ Encodable s := by
  rw [surrogates?_eq_none_iff]
  refine forall₂_congr fun c _ => ?_
  cases Utf16.surrogate? c <;> simp

theorem encodable_append {s t : String} : Encodable (s ++ t) ↔ Encodable s ∧ Encodable t := by
  unfold Encodable
  rw [String.toList_append]
  exact List.forall_mem_append

theorem surrogates?_append {ys : List Char} (plain : surrogates? (fun _ => true) ys = none)
    (xs : List Char) :
    surrogates? (fun _ => true) (xs ++ ys) = surrogates? (fun _ => true) xs := by
  rw [surrogates?_eq_firstRun] at plain ⊢
  exact firstRun_append plain xs

end ClusterAccess.Text.Utf8
