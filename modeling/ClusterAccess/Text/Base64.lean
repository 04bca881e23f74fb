/-!
# Base64

`encode` writes the standard padded form. `decode` reads it in one of two modes: `strict` refuses
every character outside the alphabet and everything after the padding, `lenient` skips such
characters and stops at the padding that completes a group of four.
-/

namespace ClusterAccess.Text.Base64

def digit (n : Nat) : Char :=
  if n < 26 then Char.ofNat (65 + n)
  else if n < 52 then Char.ofNat (71 + n)
  else if n < 62 then Char.ofNat (n - 4)
  else if n = 62 then '+'
  else '/'

def value? (c : Char) : Option Nat :=
  let n := c.toNat
  if 65 ≤ n ∧ n ≤ 90 then some (n - 65)
  else if 97 ≤ n ∧ n ≤ 122 then some (n - 71)
  else if 48 ≤ n ∧ n ≤ 57 then some (n + 4)
  else if n = 43 then some 62
  else if n = 47 then some 63
  else none

def encode : List UInt8 → List Char
  | a :: b :: c :: rest =>
    digit (a.toNat / 4) :: digit (a.toNat % 4 * 16 + b.toNat / 16) ::
      digit (b.toNat % 16 * 4 + c.toNat / 64) :: digit (c.toNat % 64) :: encode rest
  | [a, b] =>
    [digit (a.toNat / 4), digit (a.toNat % 4 * 16 + b.toNat / 16), digit (b.toNat % 16 * 4), '=']
  | [a] => [digit (a.toNat / 4), digit (a.toNat % 4 * 16), '=', '=']
  | [] => []

inductive Error
  | leadingPadding
  | foreignCharacter
  | discontinuousPadding
  /-- Something after the padding that completes a group. -/
  | excessData
  /-- One digit is left over; the number counts the digits read. -/
  | loneDigit (digits : Nat)
  /-- Two or three digits are left over without padding. -/
  | incompletePadding
  deriving DecidableEq, Repr

def Error.message : Error → String
  | .leadingPadding => "Leading padding not allowed"
  | .foreignCharacter => "Only base64 data is allowed"
  | .discontinuousPadding => "Discontinuous padding not allowed"
  | .excessData => "Excess data after padding"
  | .loneDigit n =>
    "Invalid base64-encoded string: number of data characters (" ++ toString n ++
      ") cannot be 1 more than a multiple of 4"
  | .incompletePadding => "Incorrect padding"

inductive Mode
  | strict
  | lenient
  deriving DecidableEq, Repr

/-- What the reader remembers between characters: the digits seen of the current group of four,
the bits carried over from the last of them, the padding characters since, whether padding was
seen at all, and the number of bytes written. -/
structure Group where
  digits : Nat := 0
  carry : Nat := 0
  pads : Nat := 0
  padded : Bool := false
  written : Nat := 0
  deriving DecidableEq, Repr

def Group.push (g : Group) (v : Nat) : Group × Option UInt8 :=
  let next (digits carry : Nat) (wrote : Nat) : Group :=
    { digits := digits, carry := carry, padded := g.padded, written := g.written + wrote }
  match g.digits with
  | 0 => (next 1 v 0, none)
  | 1 => (next 2 (v % 16) 1, some (g.carry * 4 + v / 16).toUInt8)
  | 2 => (next 3 (v % 4) 1, some (g.carry * 16 + v / 4).toUInt8)
  | _ => (next 0 0 1, some (g.carry * 64 + v).toUInt8)

def Group.pad (g : Group) : Group :=
  { g with padded := true, pads := if 2 ≤ g.digits then g.pads + 1 else g.pads }

/-- Padding completes a group that has at least two digits. -/
def Group.complete (g : Group) : Bool :=
  2 ≤ g.digits && 4 ≤ g.digits + g.pads

def decodeFrom (mode : Mode) (g : Group) : List Char → Except Error (List UInt8)
  | [] =>
    if g.digits = 0 then .ok []
    else if g.digits = 1 then .error (.loneDigit (g.written / 3 * 4 + 1))
    else .error .incompletePadding
  | c :: rest =>
    if c = '=' then
      let g := g.pad
      if g.complete then
        if mode = .strict ∧ rest ≠ [] then .error .excessData else .ok []
      else decodeFrom mode g rest
    else
      match value? c with
      | none => if mode = .strict then .error .foreignCharacter else decodeFrom mode g rest
      | some v =>
        if mode = .strict ∧ g.padded then .error .discontinuousPadding
        else
          match g.push v with
          | (g, none) => decodeFrom mode g rest
          | (g, some b) => (decodeFrom mode g rest).map (b :: ·)

def decode (mode : Mode) (cs : List Char) : Except Error (List UInt8) :=
  if mode = .strict ∧ cs.head? = some '=' then .error .leadingPadding
  else decodeFrom mode {} cs

def ofBytes (bytes : List UInt8) : String :=
  String.ofList (encode bytes)

end ClusterAccess.Text.Base64
