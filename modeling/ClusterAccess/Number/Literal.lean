import ClusterAccess.Number.Binary64
import ClusterAccess.Text.Blank

/-!
# Number literals

Readings of whole texts as numbers. Blanks at the ends and a sign are allowed; an integer may start
with the mark of its base, a double-precision number may be a word for infinity or no number. Digits
of all scripts count as the digits of ASCII; each script has ten of them in a row.
-/

namespace ClusterAccess.Text.DecimalDigit

/-- The digits zero outside ASCII. -/
def zeros : List Nat :=
  [0x660, 0x6F0, 0x7C0, 0x966, 0x9E6, 0xA66, 0xAE6, 0xB66, 0xBE6, 0xC66, 0xCE6, 0xD66, 0xDE6,
  0xE50, 0xED0, 0xF20, 0x1040, 0x1090, 0x17E0, 0x1810, 0x1946, 0x19D0, 0x1A80, 0x1A90, 0x1B50,
  0x1BB0, 0x1C40, 0x1C50, 0xA620, 0xA8D0, 0xA900, 0xA9D0, 0xA9F0, 0xAA50, 0xABF0, 0xFF10,
  0x104A0, 0x10D30, 0x11066, 0x110F0, 0x11136, 0x111D0, 0x112F0, 0x11450, 0x114D0, 0x11650,
  0x116C0, 0x11730, 0x118E0, 0x11950, 0x11C50, 0x11D50, 0x11DA0, 0x16A60, 0x16AC0, 0x16B50,
  0x1D7CE, 0x1D7D8, 0x1D7E2, 0x1D7EC, 0x1D7F6, 0x1E140, 0x1E2F0, 0x1E950, 0x1FBF0]

def value? (c : Char) : Option Nat :=
  let n := c.toNat
  if 0x30 ≤ n ∧ n ≤ 0x39 then some (n - 0x30)
  else (zeros.find? fun first => first ≤ n && n < first + 10).map fun first => n - first

/-- The digit of ASCII with the same value; any other character as it is. -/
def toAscii (c : Char) : Char :=
  match value? c with
  | some d => Char.ofNat (0x30 + d)
  | none => c

end ClusterAccess.Text.DecimalDigit

namespace ClusterAccess.Number

def isPadding (c : Char) : Bool :=
  Text.isBlank c && !(0x1C ≤ c.toNat && c.toNat ≤ 0x1F)

/-- A literal without white space at its ends, and with digits of ASCII only. -/
def plainLiteral (cs : List Char) : List Char :=
  (Text.trimBy isPadding cs).map Text.DecimalDigit.toAscii

def literalSign : List Char → Bool × List Char
  | '-' :: rest => (true, rest)
  | '+' :: rest => (false, rest)
  | cs => (false, cs)

def baseMark? (base : Nat) : Option Char :=
  match base with
  | 2 => some 'b'
  | 8 => some 'o'
  | 16 => some 'x'
  | _ => none

def withoutMark (base : Nat) (cs : List Char) : List Char :=
  match cs, baseMark? base with
  | '0' :: m :: rest, some mark =>
    if m == mark || m.toNat + 32 == mark.toNat then rest else cs
  | _, _ => cs

def leadingDigits (cs : List Char) : Nat :=
  ((literalSign (plainLiteral cs)).2.takeWhile isDigit).length

def intLiteral? (base : Nat) (cs : List Char) : Option Int :=
  let (negative, cs) := literalSign (plainLiteral cs)
  (nat? base (withoutMark base cs)).map fun n => if negative then -(n : Int) else (n : Int)

/-- A signed exponent behind the letter, which must be all that is left. -/
def exponentLiteral? : List Char → Option Int
  | [] => some 0
  | c :: rest =>
    if c == 'e' || c == 'E' then
      let (negative, ds) := literalSign rest
      if ds.all isDigit then
        (nat? 10 ds).map fun n => if negative then -(n : Int) else (n : Int)
      else none
    else none

def decimalLiteral? (negative : Bool) (cs : List Char) : Option Binary64 :=
  let whole := cs.takeWhile isDigit
  let rest := cs.dropWhile isDigit
  let (frac, rest) :=
    match rest with
    | '.' :: rest => (rest.takeWhile isDigit, rest.dropWhile isDigit)
    | rest => ([], rest)
  if whole.isEmpty && frac.isEmpty then none
  else do
    let e ← exponentLiteral? rest
    let n ← nat? 10 (whole ++ frac)
    some (Binary64.ofDecimal negative n (e - frac.length))

def lowerLetters (cs : List Char) : String :=
  String.ofList (cs.map fun c =>
    if 65 ≤ c.toNat ∧ c.toNat ≤ 90 then Char.ofNat (c.toNat + 32) else c)

def floatLiteral? (cs : List Char) : Option Binary64 :=
  let (negative, cs) := literalSign (plainLiteral cs)
  let word := lowerLetters cs
  if word == "inf" || word == "infinity" then some (.infinite negative)
  else if word == "nan" then some .nan
  else decimalLiteral? negative cs

end ClusterAccess.Number
