import ClusterAccess.Number.Shortest

/-!
# Numbers with a given count of digits

A number is written with a count of digits after the point, with a count of significant digits and
an exponent, or in the shorter of the two ways. Digits are rounded to the nearest, and of two
nearest to the even one.
-/

namespace ClusterAccess.Number

inductive DigitForm
  /-- So many digits after the point. -/
  | fixed
  /-- One digit before the point, so many after it, and an exponent. -/
  | exponent
  /-- So many significant digits, with an exponent only where it is needed. -/
  | general
  deriving DecidableEq, Repr

namespace Binary64

/-- A whole part and a fraction; a point without a fraction is left out unless it is kept. -/
def joinFraction (keepPoint : Bool) (whole fraction : List Char) : List Char :=
  if fraction = [] then (if keepPoint then whole ++ ['.'] else whole)
  else whole ++ '.' :: fraction

/-- No number has more digits than this on either side of the point, so all digits behind them are
zeros. -/
def exactDigits : Nat := 1100

def fixedText (keepPoint : Bool) (num den places : Nat) : List Char :=
  let exact := min places exactDigits
  let ds := padZeros (exact + 1) (natDigits 10 (nearest (num * tenTo exact) den))
  let n := ds.length - exact
  joinFraction keepPoint (ds.take n) (ds.drop n ++ List.replicate (places - exact) '0')

def nearestOnGrid (num den : Nat) (p : Int) : Nat :=
  if 0 ≤ p then nearest num (den * tenTo p.toNat) else nearest (num * tenTo (-p).toNat) den

/-- A ratio rounded to a positive count of significant digits, of which few are computed. -/
def roundedTo (num den count : Nat) : Decimal :=
  let point := decimalPoint num den
  let k := nearestOnGrid num den (point - count)
  if k = tenTo count then ⟨natDigits 10 (tenTo (count - 1)), point + 1⟩
  else ⟨natDigits 10 k, point⟩

def significant (num den count : Nat) : Decimal :=
  if num = 0 then ⟨List.replicate count '0', 1⟩
  else
    let exact := min count exactDigits
    let d := roundedTo num den exact
    { d with digits := d.digits ++ List.replicate (count - exact) '0' }

def dropZeros (cs : List Char) : List Char :=
  (cs.reverse.dropWhile (· == '0')).reverse

def exponentForm (keepPoint : Bool) (fraction : List Char → List Char) (d : Decimal) : List Char :=
  joinFraction keepPoint (d.digits.take 1) (fraction (d.digits.drop 1)) ++
    'e' :: exponentText 2 (d.point - 1)

def pointForm (keepPoint : Bool) (fraction : List Char → List Char) (d : Decimal) : List Char :=
  if d.point ≤ 0 then
    joinFraction keepPoint ['0'] (fraction (List.replicate (-d.point).toNat '0' ++ d.digits))
  else
    joinFraction keepPoint (d.digits.take d.point.toNat) (fraction (d.digits.drop d.point.toNat))

/-- A ratio with a count of significant digits; zeros at the end go unless the point is kept. -/
def generalText (keepPoint : Bool) (num den count : Nat) : List Char :=
  let d := significant num den (if keepPoint then count else min count exactDigits)
  let fraction := if keepPoint then id else dropZeros
  if -4 < d.point ∧ d.point ≤ count then pointForm keepPoint fraction d
  else exponentForm keepPoint fraction d

def formText (form : DigitForm) (keepPoint : Bool) (num den precision : Nat) : List Char :=
  match form with
  | .fixed => fixedText keepPoint num den precision
  | .exponent => exponentForm keepPoint id (significant num den (precision + 1))
  | .general => generalText keepPoint num den (max precision 1)

def rounded (x : Binary64) (form : DigitForm) (keepPoint : Bool) (precision : Nat) : List Char :=
  let body :=
    match x.ratio? with
    | some r => formText form keepPoint r.num r.den precision
    | none => if x = .nan then ['n', 'a', 'n'] else ['i', 'n', 'f']
  if x.negative then '-' :: body else body

end Binary64
end ClusterAccess.Number
