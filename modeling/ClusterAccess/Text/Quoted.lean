import ClusterAccess.Text.Hex
import ClusterAccess.Text.Printable
import ClusterAccess.Text.Utf16

/-!
# Quoted text

The form in which a text or a byte string is shown inside a larger value: between quotes, with
backslash escapes for the quote, the backslash and everything that is not printable. The quote is
the apostrophe, unless the text holds an apostrophe and no double quote.
-/

namespace ClusterAccess.Text.Quoted

def mark (cs : List Char) : Char :=
  if cs.contains '\'' && !cs.contains '"' then '"' else '\''

/-- A backslash, a letter that tells the width, and the hexadecimal digits. -/
def escape (n : Nat) : List Char :=
  if n < 0x100 then '\\' :: 'x' :: Hex.padded 2 n
  else if n < 0x10000 then '\\' :: 'u' :: Hex.padded 4 n
  else '\\' :: 'U' :: Hex.padded 8 n

/-- The escape of a character; one that stands in for a surrogate has the escape of the
surrogate. -/
def escapeChar (c : Char) : List Char :=
  escape ((Utf16.surrogate? c).getD c.toNat)

def shown (printable : Char → Bool) (quote : Char) (c : Char) : List Char :=
  if c = quote ∨ c = '\\' then ['\\', c]
  else if c = '\n' then ['\\', 'n']
  else if c = '\r' then ['\\', 'r']
  else if c = '\t' then ['\\', 't']
  else if printable c then [c]
  else escapeChar c

def wrap (printable : Char → Bool) (cs : List Char) : List Char :=
  let quote := mark cs
  quote :: cs.flatMap (shown printable quote) ++ [quote]

def ofString (s : String) : String :=
  String.ofList (wrap isPrintable s.toList)

/-- A byte string between quotes, marked by a leading `b`. -/
def ofBytes (bytes : List UInt8) : String :=
  let cs := bytes.map fun b => Char.ofNat b.toNat
  String.ofList ('b' :: wrap (fun c => isPrintable c && c.toNat < 0x80) cs)

end ClusterAccess.Text.Quoted
