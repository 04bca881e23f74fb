import ClusterAccess.Number.Numeral

/-!
# Double-precision numbers

A finite number is a sign, a mantissa below 2^53 and a binary exponent of at least -1074, so every
value is exact. Sums, products and decimal numerals are computed exactly and rounded once, to the
nearest number and of two nearest to the one with the even mantissa.
-/

namespace ClusterAccess.Number

inductive Binary64
  | nan
  | infinite (negative : Bool)
  | finite (negative : Bool) (mantissa : Nat) (exponent : Int)
  deriving DecidableEq, Repr

/-- A ratio of naturals times a sign; the denominator is positive. -/
structure Ratio where
  negative : Bool
  num : Nat
  den : Nat
  deriving DecidableEq, Repr

namespace Binary64

/-- The nearest natural to `num / den`, the even one of two. -/
def nearest (num den : Nat) : Nat :=
  let q := num / den
  let r := num % den
  if 2 * r < den then q else if den < 2 * r then q + 1 else if q % 2 = 0 then q else q + 1

/-- `num / den / 2^e` as a ratio of naturals. -/
def scaleDown (num den : Nat) (e : Int) : Nat × Nat :=
  if 0 ≤ e then (num, den * twoTo e.toNat) else (num * twoTo (-e).toNat, den)

/-- The exponent at which `num / den` has a mantissa of fifty-three bits, or the least one. -/
def exponentFor (num den : Nat) : Int :=
  let guess : Int := max (-1074) ((num.log2 : Int) - den.log2 - 53)
  let (n, d) := scaleDown num den guess
  if twoTo 53 ≤ n / d then guess + 1 else guess

def ofRatio (r : Ratio) : Binary64 :=
  if r.num = 0 then .finite r.negative 0 (-1074)
  else
    let e := exponentFor r.num r.den
    let (n, d) := scaleDown r.num r.den e
    let m := nearest n d
    let (m, e) := if m = twoTo 53 then (twoTo 52, e + 1) else (m, e)
    if 971 < e then .infinite r.negative else .finite r.negative m e

/-- The number nearest to `mantissa * 10^exponent`. Exponents that leave the range of all finite
numbers are cut off before any power is computed. -/
def ofDecimal (negative : Bool) (mantissa : Nat) (exponent : Int) : Binary64 :=
  if mantissa = 0 then .finite negative 0 (-1074)
  else
    let magnitude := exponent + (natDigits 10 mantissa).length
    if 400 < magnitude then .infinite negative
    else if magnitude < -400 then .finite negative 0 (-1074)
    else if 0 ≤ exponent then ofRatio ⟨negative, mantissa * tenTo exponent.toNat, 1⟩
    else ofRatio ⟨negative, mantissa, tenTo (-exponent).toNat⟩

def ofNat (n : Nat) : Binary64 :=
  ofRatio ⟨false, n, 1⟩

def ratio? : Binary64 → Option Ratio
  | .finite s m e => if 0 ≤ e then some ⟨s, m * twoTo e.toNat, 1⟩ else some ⟨s, m, twoTo (-e).toNat⟩
  | _ => none

def isZero : Binary64 → Bool
  | .finite _ m _ => m = 0
  | _ => false

def negative : Binary64 → Bool
  | .nan => false
  | .infinite s => s
  | .finite s _ _ => s

def neg : Binary64 → Binary64
  | .nan => .nan
  | .infinite s => .infinite !s
  | .finite s m e => .finite (!s) m e

end Binary64

namespace Ratio

def signedNum (r : Ratio) : Int :=
  if r.negative then -(r.num : Int) else r.num

def ofSigned (num : Int) (den : Nat) : Ratio :=
  ⟨num < 0, num.natAbs, den⟩

def add (a b : Ratio) : Ratio :=
  ofSigned (a.signedNum * b.den + b.signedNum * a.den) (a.den * b.den)

def eq (a b : Ratio) : Bool :=
  a.signedNum * b.den == b.signedNum * a.den

def int? (r : Ratio) : Option Int :=
  if r.num % r.den = 0 then
    some (if r.negative then -((r.num / r.den : Nat) : Int) else ((r.num / r.den : Nat) : Int))
  else none

end Ratio

namespace Binary64

def add (x y : Binary64) : Binary64 :=
  match x.ratio?, y.ratio? with
  | some a, some b =>
    if a.num = 0 ∧ b.num = 0 then .finite (a.negative && b.negative) 0 (-1074)
    else ofRatio (a.add b)
  | some _, none => y
  | none, some _ => x
  | none, none => if x = y then x else .nan

def mul (x y : Binary64) : Binary64 :=
  match x.ratio?, y.ratio? with
  | some a, some b => ofRatio ⟨a.negative != b.negative, a.num * b.num, a.den * b.den⟩
  | _, _ =>
    if x = .nan ∨ y = .nan ∨ x.isZero ∨ y.isZero then .nan
    else .infinite (x.negative != y.negative)

/-- Numerical equality: no number equals `nan`, and the two zeros are equal. -/
def numEq (x y : Binary64) : Bool :=
  match x, y with
  | .nan, _ => false
  | _, .nan => false
  | .infinite s, .infinite t => s == t
  | _, _ =>
    match x.ratio?, y.ratio? with
    | some a, some b => a.eq b
    | _, _ => false

def int? (x : Binary64) : Option Int :=
  x.ratio?.bind Ratio.int?

end Binary64
end ClusterAccess.Number
