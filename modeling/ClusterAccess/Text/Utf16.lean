/-!
# UTF-16 code units

`units` splits a scalar value into its code units and `join` puts units together again. A text can
hold a surrogate that stands alone: it is held by a stand-in, the private character a fixed
distance above it, and has no form in UTF-8.
-/

namespace ClusterAccess.Text.Utf16

def isHigh (n : Nat) : Bool := 0xD800 ≤ n && n < 0xDC00

def isLow (n : Nat) : Bool := 0xDC00 ≤ n && n < 0xE000

def isSurrogate (n : Nat) : Bool := isHigh n || isLow n

/-- The distance from a surrogate to its stand-in. -/
def standInOffset : Nat := 0xF0000

/-- The character of a unit that has no partner. -/
def single (n : Nat) : Char :=
  Char.ofNat (if isSurrogate n then n + standInOffset else n)

def surrogate? (c : Char) : Option Nat :=
  let n := c.toNat - standInOffset
  if isSurrogate n then some n else none

/-- Surrogates that stand for single bytes in the names of files and accounts. -/
def isByteMark (n : Nat) : Bool := 0xDC80 ≤ n && n ≤ 0xDCFF

/-- The units of a character that may stand for a surrogate. -/
def unitsOf (standsFor : Option Nat) (n : Nat) : List Nat :=
  match standsFor with
  | some s => [s]
  | none =>
    if n < 0x10000 then [n]
    else [0xD800 + (n - 0x10000) / 0x400, 0xDC00 + (n - 0x10000) % 0x400]

def units (c : Char) : List Nat :=
  unitsOf (surrogate? c) c.toNat

/-- The characters that units spell; a number above all units stands for its scalar value. -/
def join : List Nat → List Char
  | [] => []
  | [n] => [single n]
  | n :: m :: rest =>
    if isHigh n && isLow m then
      Char.ofNat (0x10000 + (n - 0xD800) * 0x400 + (m - 0xDC00)) :: join rest
    else single n :: join (m :: rest)

end ClusterAccess.Text.Utf16
