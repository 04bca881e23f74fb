import ClusterAccess.Proofs.Text.Utf8
import ClusterAccess.Text.Utf16
import Mathlib.Data.List.Chain

/-!
# Code units joined again

The units of a text give back its characters (`paired_of_whole`). Only where a surrogate that can
begin a pair stands alone in front of one that can end it do the two come back as one character.
-/

namespace ClusterAccess.Text.Utf16

variable {c d : Char} {n m : Nat} {us : List Nat} {cs : List Char}

/-- A stand-in for a surrogate that can begin a pair. -/
def Begins (c : Char) : Prop := ∃ n, surrogate? c = some n ∧ isHigh n = true

/-- A stand-in for a surrogate that can end a pair. -/
def Ends (c : Char) : Prop := ∃ n, surrogate? c = some n ∧ isLow n = true

/-- No two surrogates that would make a pair stand next to each other. -/
def Whole (s : String) : Prop :=
  s.toList.IsChain fun c d => ¬(Begins c ∧ Ends d)

/-- The text that the units of a text spell. -/
def paired (s : String) : String :=
  String.ofList (join (s.toList.flatMap units))

/-! ### Surrogates -/

theorem isHigh_iff : isHigh n = true ↔ 0xD800 ≤ n ∧ n < 0xDC00 := by
  simp [isHigh]

theorem isLow_iff : isLow n = true ↔ 0xDC00 ≤ n ∧ n < 0xE000 := by
  simp [isLow]

theorem isSurrogate_iff : isSurrogate n = true ↔ 0xD800 ≤ n ∧ n < 0xE000 := by
  unfold isSurrogate
  rw [Bool.or_eq_true, isHigh_iff, isLow_iff]
  omega

theorem surrogate?_eq_some :
    surrogate? c = some n ↔ isSurrogate n = true ∧ c.toNat = n + standInOffset := by
  unfold surrogate?
  rw [Option.ite_none_right_eq_some, Option.some.injEq]
  constructor
  · rintro ⟨surrogate, rfl⟩
    have large := (isSurrogate_iff.mp surrogate).1
    exact ⟨surrogate, by omega⟩
  · rintro ⟨surrogate, value⟩
    rw [value, Nat.add_sub_cancel]
    exact ⟨surrogate, rfl⟩

/-- No character is a surrogate. -/
theorem not_isSurrogate_toNat (c : Char) : isSurrogate c.toNat = false := by
  rw [← Bool.not_eq_true, isSurrogate_iff]
  rcases c.valid with low | ⟨high, _⟩
  · have : c.toNat < 0xD800 := low
    omega
  · have : 0xDFFF < c.toNat := high
    omega

theorem single_toNat (c : Char) : single c.toNat = c := by
  unfold single
  rw [not_isSurrogate_toNat, if_neg Bool.false_ne_true, Char.ofNat_toNat]

theorem single_of_surrogate? (h : surrogate? c = some n) : single n = c := by
  obtain ⟨surrogate, value⟩ := surrogate?_eq_some.mp h
  unfold single
  rw [if_pos surrogate, ← value, Char.ofNat_toNat]

/-! ### One character -/

/-- The three forms of a character. -/
theorem units_cases (c : Char) :
    (∃ n, surrogate? c = some n ∧ units c = [n]) ∨
    (surrogate? c = none ∧ c.toNat < 0x10000 ∧ units c = [c.toNat]) ∨
    (surrogate? c = none ∧ 0x10000 ≤ c.toNat ∧ c.toNat < 0x110000 ∧
      units c = [0xD800 + (c.toNat - 0x10000) / 0x400, 0xDC00 + (c.toNat - 0x10000) % 0x400]) := by
  have bound := Utf8.toNat_lt c
  unfold units
  -- Made variables: a check by computation would count the offset of the stand-ins down to zero.
  generalize surrogate? c = found
  generalize c.toNat = n at bound
  cases found with
  | some s => exact .inl ⟨s, rfl, rfl⟩
  | none =>
    rw [unitsOf]
    by_cases short : n < 0x10000
    · rw [if_pos short]
      exact .inr (.inl ⟨rfl, short, rfl⟩)
    · rw [if_neg short]
      exact .inr (.inr ⟨rfl, by omega, bound, rfl⟩)

theorem units_lt (member : n ∈ units c) : n < 0x10000 := by
  rcases units_cases c with ⟨k, found, form⟩ | ⟨_, short, form⟩ | ⟨_, _, _, form⟩ <;>
    rw [form] at member
  · obtain rfl := List.mem_singleton.mp member
    have := isSurrogate_iff.mp (surrogate?_eq_some.mp found).1
    omega
  · obtain rfl := List.mem_singleton.mp member
    exact short
  · rcases List.mem_cons.mp member with value | last
    · omega
    · have value := List.mem_singleton.mp last
      omega

/-- A unit that can end a pair comes first only in a stand-in. -/
theorem ends_of_head (first : (units c ++ us).head? = some n) (low : isLow n = true) :
    Ends c := by
  have large := isLow_iff.mp low
  rcases units_cases c with ⟨k, found, form⟩ | ⟨_, _, form⟩ | ⟨_, _, _, form⟩ <;>
    rw [form] at first
  · obtain rfl := Option.some.inj first
    exact ⟨_, found, low⟩
  · obtain rfl := Option.some.inj first
    have none := not_isSurrogate_toNat c
    rw [isSurrogate, low, Bool.or_true] at none
    cases none
  · have value := Option.some.inj first
    omega

theorem join_cons_of_not_pair (apart : isHigh n = true → ∀ m, us.head? = some m → isLow m = false) :
    join (n :: us) = single n :: join us := by
  cases us with
  | nil => rfl
  | cons m rest =>
    rw [join]
    cases high : isHigh n with
    | false => rw [Bool.false_and, if_neg Bool.false_ne_true]
    | true => rw [apart high m rfl, Bool.and_false, if_neg Bool.false_ne_true]

/-- The units of a character are joined to it, unless it begins a pair with what follows. -/
theorem join_units_append
    (apart : Begins c → ∀ m, us.head? = some m → isLow m = false) :
    join (units c ++ us) = c :: join us := by
  rcases units_cases c with ⟨k, found, form⟩ | ⟨_, _, form⟩ | ⟨_, high, bound, form⟩ <;>
    rw [form]
  · rw [List.singleton_append,
      join_cons_of_not_pair fun begins => apart ⟨k, found, begins⟩, single_of_surrogate? found]
  · rw [List.singleton_append, join_cons_of_not_pair, single_toNat]
    intro begins
    have none := not_isSurrogate_toNat c
    rw [isSurrogate, begins, Bool.true_or] at none
    cases none
  · have first : isHigh (0xD800 + (c.toNat - 0x10000) / 0x400) = true :=
      isHigh_iff.mpr (by omega)
    have second : isLow (0xDC00 + (c.toNat - 0x10000) % 0x400) = true :=
      isLow_iff.mpr (by omega)
    have value : 0x10000 + (0xD800 + (c.toNat - 0x10000) / 0x400 - 0xD800) * 0x400 +
        (0xDC00 + (c.toNat - 0x10000) % 0x400 - 0xDC00) = c.toNat := by omega
    rw [List.cons_append, List.cons_append, List.nil_append, join, first, second, Bool.and_self,
      if_pos rfl, value, Char.ofNat_toNat]

/-! ### Texts -/

theorem join_flatMap_units (whole : cs.IsChain fun c d => ¬(Begins c ∧ Ends d)) :
    join (cs.flatMap units) = cs := by
  induction cs with
  | nil => rfl
  | cons c rest ih =>
    rw [List.flatMap_cons, join_units_append, ih whole.tail]
    intro begins m first
    cases rest with
    | nil => cases first
    | cons d more =>
      rw [← Bool.not_eq_true]
      intro low
      exact (List.isChain_cons_cons.mp whole).1 ⟨begins, ends_of_head first low⟩

theorem paired_of_whole {s : String} (whole : Whole s) : paired s = s := by
  unfold paired
  rw [join_flatMap_units whole, String.ofList_toList]

/-- A text without stand-ins is whole. -/
theorem whole_of_all {s : String} (none : s.toList.all (fun c => (surrogate? c).isNone) = true) :
    Whole s := by
  refine List.Pairwise.isChain (List.pairwise_of_forall_mem_list fun c member d _ => ?_)
  rintro ⟨⟨n, found, _⟩, _⟩
  have absent := List.all_eq_true.mp none c member
  rw [found] at absent
  cases absent

end ClusterAccess.Text.Utf16
