/-!
# Numerals

Powers, digits of naturals and integers in a base, least width with leading zeros, and reading
digits back.
-/

namespace ClusterAccess.Number

def twoTo (n : Nat) : Nat := Nat.pow 2 n

def tenTo (n : Nat) : Nat := Nat.pow 10 n

def digitChar (n : Nat) : Char :=
  if n < 10 then Char.ofNat (48 + n) else Char.ofNat (87 + n)

/-- The digits of `n` in `base`, most significant first, with at most `fuel` digits. -/
def digitsUpTo (base : Nat) : Nat → Nat → List Char → List Char
  | 0, _, acc => acc
  | fuel + 1, n, acc =>
    let acc := digitChar (n % base) :: acc
    if n / base = 0 then acc else digitsUpTo base fuel (n / base) acc

/-- The digits of `n` in `base`; zero has one digit. -/
def natDigits (base n : Nat) : List Char :=
  digitsUpTo base (n.log2 + 1) n []

def padZeros (width : Nat) (cs : List Char) : List Char :=
  List.replicate (width - cs.length) '0' ++ cs

def natText (n : Nat) : String :=
  String.ofList (natDigits 10 n)

def intText (i : Int) : String :=
  if i < 0 then "-" ++ natText i.natAbs else natText i.natAbs

def digitValue? (c : Char) : Option Nat :=
  if 48 ≤ c.toNat ∧ c.toNat ≤ 57 then some (c.toNat - 48) else none

def isDigit (c : Char) : Bool :=
  (digitValue? c).isSome

def baseDigit? (c : Char) : Option Nat :=
  let n := c.toNat
  if 48 ≤ n ∧ n ≤ 57 then some (n - 48)
  else if 97 ≤ n ∧ n ≤ 122 then some (n - 87)
  else if 65 ≤ n ∧ n ≤ 90 then some (n - 55)
  else none

/-- The number that digits in `base` spell after the number `acc`; no digit spells `acc`. -/
def readDigits (base : Nat) (acc : Nat) : List Char → Option Nat
  | [] => some acc
  | c :: rest =>
    match baseDigit? c with
    | some d => if d < base then readDigits base (acc * base + d) rest else none
    | none => none

/-- The number that at least one digit in `base` spells. -/
def nat? (base : Nat) (cs : List Char) : Option Nat :=
  if cs.isEmpty then none else readDigits base 0 cs

end ClusterAccess.Number
