/-!
# Hexadecimal digits

Lower-case digits, two for each byte, most significant first.
-/

namespace ClusterAccess.Text.Hex

def digit (n : Nat) : Char :=
  if n < 10 then Char.ofNat (48 + n) else Char.ofNat (87 + n)

def value? (c : Char) : Option Nat :=
  let n := c.toNat
  if 48 ≤ n ∧ n ≤ 57 then some (n - 48)
  else if 97 ≤ n ∧ n ≤ 102 then some (n - 87)
  else if 65 ≤ n ∧ n ≤ 70 then some (n - 55)
  else none

def padded : Nat → Nat → List Char
  | 0, _ => []
  | width + 1, n => padded width (n / 16) ++ [digit (n % 16)]

def ofBytes (bytes : List UInt8) : List Char :=
  bytes.flatMap fun b => [digit (b.toNat / 16), digit (b.toNat % 16)]

def toBytes? : List Char → Option (List UInt8)
  | [] => some []
  | a :: b :: rest => do
    let x ← value? a
    let y ← value? b
    let bytes ← toBytes? rest
    pure ((x * 16 + y).toUInt8 :: bytes)
  | [_] => none

/-- The number that a text of digits stands for, read after `acc`. -/
def toNat? (acc : Nat) : List Char → Option Nat
  | [] => some acc
  | c :: rest => do toNat? (acc * 16 + (← value? c)) rest

end ClusterAccess.Text.Hex
