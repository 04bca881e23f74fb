import ClusterAccess.Number.Numeral
import Mathlib.Algebra.Group.Nat.Defs
import Mathlib.Data.List.Basic

/-!
# Numerals read back

The digits of a number spell that number (`nat?_natDigits`), and only zero starts with a zero
(`natDigits_head_zero`).
-/

namespace ClusterAccess.Number

variable {base fuel n : Nat} {c : Char}

theorem baseDigit?_digitChar : ∀ d < 36, baseDigit? (digitChar d) = some d := by
  decide

theorem isDigit_digitChar : ∀ d < 10, isDigit (digitChar d) = true := by
  decide

theorem digitChar_zero : ∀ d < 10, digitChar d = '0' → d = 0 := by
  decide

theorem readDigits_append (base a : Nat) (xs ys : List Char) :
    readDigits base a (xs ++ ys) =
      (readDigits base a xs).bind fun b => readDigits base b ys := by
  induction xs generalizing a with
  | nil => rfl
  | cons x xs ih =>
    rw [List.cons_append, readDigits, readDigits]
    cases baseDigit? x with
    | none => rfl
    | some d =>
      dsimp only
      split
      · exact ih _
      · rfl

theorem digitsUpTo_append (base fuel n : Nat) (acc : List Char) :
    digitsUpTo base fuel n acc = digitsUpTo base fuel n [] ++ acc := by
  induction fuel generalizing n acc with
  | zero => rfl
  | succ fuel ih =>
    rw [digitsUpTo, digitsUpTo]
    split
    · rfl
    · rw [ih, ih _ [_], List.append_assoc, List.singleton_append]

/-- The last digit behind those of the quotient. -/
theorem digitsUpTo_succ (more : n / base ≠ 0) :
    digitsUpTo base (fuel + 1) n [] =
      digitsUpTo base fuel (n / base) [] ++ [digitChar (n % base)] := by
  rw [digitsUpTo, if_neg more, digitsUpTo_append]

theorem digitsUpTo_last (last : n / base = 0) :
    digitsUpTo base (fuel + 1) n [] = [digitChar (n % base)] := by
  rw [digitsUpTo, if_pos last]

theorem readDigits_digitsUpTo (positive : 0 < base) (usual : base ≤ 36) (enough : n < base ^ fuel) :
    readDigits base 0 (digitsUpTo base fuel n []) = some n := by
  induction fuel generalizing n with
  | zero =>
    obtain rfl : n = 0 := by simpa using enough
    rfl
  | succ fuel ih =>
    have small := Nat.mod_lt n positive
    have digit := baseDigit?_digitChar (n % base) (by omega)
    have parts := Nat.div_add_mod' n base
    by_cases last : n / base = 0
    · rw [digitsUpTo_last last, readDigits, digit]
      dsimp only
      rw [if_pos small, readDigits]
      congr 1
      rw [last] at parts
      exact parts
    · have fewer : n / base < base ^ fuel :=
        Nat.div_lt_of_lt_mul (by rwa [Nat.pow_succ, Nat.mul_comm] at enough)
      rw [digitsUpTo_succ last, readDigits_append, ih fewer, Option.bind_some, readDigits, digit]
      dsimp only
      rw [if_pos small, readDigits, parts]

theorem digitsUpTo_isDigit (member : c ∈ digitsUpTo 10 fuel n []) : isDigit c = true := by
  induction fuel generalizing n with
  | zero => exact absurd member List.not_mem_nil
  | succ fuel ih =>
    have digit := isDigit_digitChar (n % 10) (Nat.mod_lt _ (by decide))
    by_cases last : n / 10 = 0
    · rw [digitsUpTo_last last] at member
      rwa [List.mem_singleton.mp member]
    · rw [digitsUpTo_succ last] at member
      rcases List.mem_append.mp member with before | here
      · exact ih before
      · rwa [List.mem_singleton.mp here]

theorem digitsUpTo_ne_nil (base n : Nat) : digitsUpTo base (fuel + 1) n [] ≠ [] := by
  by_cases last : n / base = 0
  · rw [digitsUpTo_last last]
    exact List.cons_ne_nil _ _
  · rw [digitsUpTo_succ last]
    exact List.append_ne_nil_of_right_ne_nil _ (List.cons_ne_nil _ _)

theorem digitsUpTo_head_zero (enough : n < 10 ^ fuel)
    (zero : (digitsUpTo 10 fuel n []).head? = some '0') : n = 0 := by
  induction fuel generalizing n with
  | zero => simpa using enough
  | succ fuel ih =>
    by_cases last : n / 10 = 0
    · rw [digitsUpTo_last last] at zero
      have := digitChar_zero _ (Nat.mod_lt n (by decide)) (Option.some.inj zero)
      omega
    · have fewer : n / 10 < 10 ^ fuel := by omega
      cases fuel with
      | zero => omega
      | succ fuel =>
        rw [digitsUpTo_succ last,
          List.head?_append_of_ne_nil _ (digitsUpTo_ne_nil 10 (n / 10))] at zero
        exact absurd (ih fewer zero) last

theorem natDigits_enough (n : Nat) : n < 10 ^ (n.log2 + 1) :=
  Nat.lt_of_lt_of_le Nat.lt_log2_self (Nat.pow_le_pow_left (by decide) _)

/-! ### The digits of a number -/

theorem natDigits_ne_nil (n : Nat) : natDigits 10 n ≠ [] :=
  digitsUpTo_ne_nil 10 n

theorem natDigits_isDigit (member : c ∈ natDigits 10 n) : isDigit c = true :=
  digitsUpTo_isDigit member

theorem natDigits_head_zero (zero : (natDigits 10 n).head? = some '0') : natDigits 10 n = ['0'] := by
  obtain rfl := digitsUpTo_head_zero (natDigits_enough n) zero
  rfl

theorem nat?_natDigits (n : Nat) : nat? 10 (natDigits 10 n) = some n := by
  unfold nat?
  rw [if_neg (by simpa using natDigits_ne_nil n)]
  exact readDigits_digitsUpTo (by decide) (by decide) (natDigits_enough n)

end ClusterAccess.Number
