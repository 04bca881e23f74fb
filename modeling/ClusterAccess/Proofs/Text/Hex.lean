import ClusterAccess.Text.Hex
import Mathlib.Algebra.Group.Nat.Defs

/-!
# Hexadecimal digits read back

The digits of bytes give back the bytes (`toBytes?_ofBytes`), and a number written in enough digits
is read as that number (`toNat?_padded`).
-/

namespace ClusterAccess.Text.Hex

variable {c : Char}

theorem value?_digit : ∀ n < 16, value? (digit n) = some n := by
  decide

/-- The digits of bytes are read back as the bytes. -/
theorem toBytes?_ofBytes (bytes : List UInt8) : toBytes? (ofBytes bytes) = some bytes := by
  induction bytes with
  | nil => rfl
  | cons b rest ih =>
    have bound : b.toNat < 256 := b.toNat_lt
    have high : value? (digit (b.toNat / 16)) = some (b.toNat / 16) := value?_digit _ (by omega)
    have low : value? (digit (b.toNat % 16)) = some (b.toNat % 16) := value?_digit _ (by omega)
    change toBytes? (digit (b.toNat / 16) :: digit (b.toNat % 16) :: ofBytes rest) = _
    rw [toBytes?, high, low, ih]
    have whole : b.toNat / 16 * 16 + b.toNat % 16 = b.toNat := by omega
    change some ((b.toNat / 16 * 16 + b.toNat % 16).toUInt8 :: rest) = some (b :: rest)
    rw [whole, Nat.toUInt8, UInt8.ofNat_toNat]

theorem ofBytes_inj {xs ys : List UInt8} (h : ofBytes xs = ofBytes ys) : xs = ys := by
  have read := toBytes?_ofBytes xs
  rw [h, toBytes?_ofBytes] at read
  exact (Option.some.inj read).symm

/-! ### Numbers of a fixed width -/

theorem toNat?_append (acc : Nat) (xs ys : List Char) :
    toNat? acc (xs ++ ys) = (toNat? acc xs).bind fun n => toNat? n ys := by
  induction xs generalizing acc with
  | nil => rfl
  | cons x xs ih =>
    rw [List.cons_append, toNat?, toNat?]
    cases value? x with
    | none => rfl
    | some v => exact ih _

theorem toNat?_padded {width n : Nat} (small : n < 16 ^ width) :
    toNat? 0 (padded width n) = some n := by
  induction width generalizing n with
  | zero =>
    obtain rfl : n = 0 := by simpa using small
    rfl
  | succ width ih =>
    rw [padded, toNat?_append, ih (by omega), Option.bind_some, toNat?,
      value?_digit _ (Nat.mod_lt _ (by decide))]
    change some (n / 16 * 16 + n % 16) = some n
    rw [Nat.div_add_mod']

theorem digit_ascii : ∀ n < 16, 0x20 ≤ (digit n).toNat ∧ (digit n).toNat < 0x7F := by
  decide

theorem padded_ascii {width n : Nat} (member : c ∈ padded width n) :
    0x20 ≤ c.toNat ∧ c.toNat < 0x7F := by
  induction width generalizing n with
  | zero => exact absurd member List.not_mem_nil
  | succ width ih =>
    rcases List.mem_append.mp member with before | last
    · exact ih before
    · rw [List.mem_singleton.mp last]
      exact digit_ascii _ (Nat.mod_lt _ (by decide))

end ClusterAccess.Text.Hex
