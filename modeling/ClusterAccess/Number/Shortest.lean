import ClusterAccess.Number.Binary64

/-!
# Decimal text of double-precision numbers

`shortest` finds the fewest decimal digits that read back as the same number, and of those the
nearest to it. `text` writes them positionally for magnitudes from 10^-4 up to 10^16 and with an
exponent otherwise.
-/

namespace ClusterAccess.Number

/-- Decimal digits `d` and the place of the point: the value is `0.d * 10^point`. -/
structure Decimal where
  digits : List Char
  point : Int
  deriving DecidableEq, Repr

namespace Decimal

/-- Drop zeros at the end, but keep one digit. -/
def strip (d : Decimal) : Decimal :=
  match (d.digits.reverse.dropWhile (· == '0')).reverse with
  | [] => ⟨['0'], 1⟩
  | ds => { d with digits := ds }

end Decimal

namespace Binary64

/-- `num / den` compared with `k * 10^p` after scaling both to naturals: the two products. -/
def onGrid (num den k : Nat) (p : Int) : Nat × Nat :=
  if 0 ≤ p then (num, k * tenTo p.toNat * den) else (num * tenTo (-p).toNat, k * den)

/-- Largest `k` with `k * 10^p` at most `num / den`. -/
def floorOnGrid (num den : Nat) (p : Int) : Nat :=
  if 0 ≤ p then num / (den * tenTo p.toNat) else num * tenTo (-p).toNat / den

/-- The number of digits before the point of `num / den`, counted negative for leading zeros
after it: `10^(n-1) ≤ num / den < 10^n`. -/
def decimalPoint (num den : Nat) : Int :=
  let guess : Int := ((natDigits 10 num).length : Int) - (natDigits 10 den).length
  if floorOnGrid num den guess = 0 then guess else guess + 1

/-- The interval of values that round to a mantissa and exponent, doubled twice to stay integral:
lower end, upper end and the value itself, all over the same denominator. -/
structure Rounding where
  low : Nat
  value : Nat
  high : Nat
  den : Nat
  closed : Bool
  deriving DecidableEq, Repr

def rounding (m : Nat) (e : Int) : Rounding :=
  let (num, den) := if 0 ≤ e then (twoTo e.toNat, 4) else (1, 4 * twoTo (-e).toNat)
  let below := if m = twoTo 52 ∧ e ≠ -1074 then 1 else 2
  { low := (4 * m - below) * num, value := 4 * m * num, high := (4 * m + 2) * num,
    den := den, closed := m % 2 = 0 }

/-- Whether `k * 10^p` rounds back to the value. -/
def Rounding.holds (r : Rounding) (k : Nat) (p : Int) : Bool :=
  let (lo, x) := onGrid r.low r.den k p
  let (hi, y) := onGrid r.high r.den k p
  if r.closed then lo ≤ x && y ≤ hi else lo < x && y < hi

/-- The nearer of two grid neighbours that round back, of equally near ones the even one. -/
def Rounding.pick (r : Rounding) (p : Int) : Option Nat :=
  let k := floorOnGrid r.value r.den p
  match r.holds k p && k != 0, r.holds (k + 1) p with
  | false, false => none
  | true, false => some k
  | false, true => some (k + 1)
  | true, true =>
    let (v, x) := onGrid r.value r.den (2 * k + 1) p
    if 2 * v < x then some k else if x < 2 * v then some (k + 1)
    else some (if k % 2 = 0 then k else k + 1)

/-- The first grid, from `n` digits on, that has a point which rounds back. -/
def Rounding.search (r : Rounding) (point : Int) : Nat → Nat → Decimal
  | 0, n => ⟨natDigits 10 (floorOnGrid r.value r.den (point - n)), point⟩
  | fuel + 1, n =>
    match r.pick (point - n) with
    | some k => ⟨natDigits 10 k, point - n + (natDigits 10 k).length⟩
    | none => r.search point fuel (n + 1)

/-- The fewest digits that read back as the mantissa and exponent. -/
def shortest (m : Nat) (e : Int) : Decimal :=
  if m = 0 then ⟨['0'], 1⟩
  else
    let r := rounding m e
    (r.search (decimalPoint r.value r.den) 17 1).strip

/-- How a number is laid out: positionally down to the least place of the point, with an exponent
otherwise. -/
structure Layout where
  leastPoint : Int
  exponentDigits : Nat
  deriving DecidableEq, Repr

/-- Positional down to 10^-4; exponents have at least two digits. -/
def Layout.display : Layout := { leastPoint := -3, exponentDigits := 2 }

/-- Positional down to 10^-5; exponents have no zeros in front. -/
def Layout.interchange : Layout := { leastPoint := -4, exponentDigits := 1 }

def greatestPoint : Int := 16

def exponentText (digits : Nat) (e : Int) : List Char :=
  (if e < 0 then '-' else '+') :: padZeros digits (natDigits 10 e.natAbs)

/-- Digits with a point placed among them, and zeros as needed; at least one digit after it. -/
def positional (d : Decimal) : List Char :=
  if d.point ≤ 0 then '0' :: '.' :: (List.replicate (-d.point).toNat '0' ++ d.digits)
  else
    let n := d.point.toNat
    if d.digits.length ≤ n then
      d.digits ++ List.replicate (n - d.digits.length) '0' ++ ['.', '0']
    else d.digits.take n ++ '.' :: d.digits.drop n

def scientific (exponentDigits : Nat) (d : Decimal) : List Char :=
  match d.digits with
  | [] => []
  | [c] => c :: 'e' :: exponentText exponentDigits (d.point - 1)
  | c :: rest => c :: '.' :: (rest ++ 'e' :: exponentText exponentDigits (d.point - 1))

/-- The text of a number in a layout: the fewest digits that read back. -/
def layOut (l : Layout) : Binary64 → String
  | .nan => "nan"
  | .infinite s => if s then "-inf" else "inf"
  | .finite s m e =>
    let d := shortest m e
    let body :=
      if l.leastPoint ≤ d.point ∧ d.point ≤ greatestPoint then positional d
      else scientific l.exponentDigits d
    String.ofList (if s then '-' :: body else body)

def text (x : Binary64) : String := layOut .display x

end Binary64
end ClusterAccess.Number
