import ClusterAccess.Document.Display
import ClusterAccess.Text.Utf16

/-!
# Writing JSON

`write` gives the JSON text of a value in one of two styles: `spaced` puts a blank after commas and
colons and escapes everything outside printable ASCII, `compact` does neither. The styles also
differ in numbers that are infinite or none, and in integers with very many digits. A value that
JSON has no form for is written as the string of its display text.
-/

namespace ClusterAccess.Json

structure Style where
  comma : String
  colon : String
  ascii : Bool
  layout : Number.Binary64.Layout
  /-- Whether infinities and the number that is none are written as null. -/
  finiteOnly : Bool
  /-- Whether integers are written whatever their length. -/
  anyLength : Bool
  deriving DecidableEq, Repr

/-- A blank after each separator, and only ASCII characters. -/
def spaced : Style :=
  { comma := ", ", colon := ": ", ascii := true, layout := .display, finiteOnly := false
    anyLength := false }

/-- No blanks, and characters outside ASCII as they are. -/
def compact : Style :=
  { comma := ",", colon := ":", ascii := false, layout := .interchange, finiteOnly := true
    anyLength := true }

inductive WriteError
  /-- A map key of the named type, which cannot name a member. -/
  | badName (typeName : String)
  /-- An integer with too many digits. -/
  | tooLong
  deriving DecidableEq, Repr

/-- Whether the integers in a value are short enough to be written. -/
def Style.admits (style : Style) (v : Value) : Bool :=
  v.isShowable || style.anyLength

def escapeUnit (n : Nat) : List Char :=
  '\\' :: 'u' :: Text.Hex.padded 4 n

def escape (ascii : Bool) (c : Char) : List Char :=
  match c with
  | '"' => ['\\', '"']
  | '\\' => ['\\', '\\']
  | '\n' => ['\\', 'n']
  | '\r' => ['\\', 'r']
  | '\t' => ['\\', 't']
  | '\x08' => ['\\', 'b']
  | '\x0c' => ['\\', 'f']
  | c =>
    if c.toNat < 0x20 then escapeUnit c.toNat
    else if ascii && 0x7F ≤ c.toNat then (Text.Utf16.units c).flatMap escapeUnit
    else [c]

def stringText (ascii : Bool) (s : String) : String :=
  String.ofList ('"' :: s.toList.flatMap (escape ascii) ++ ['"'])

def floatText (style : Style) (x : Number.Binary64) : String :=
  match x with
  | .nan => if style.finiteOnly then "null" else "NaN"
  | .infinite s =>
    if style.finiteOnly then "null" else if s then "-Infinity" else "Infinity"
  | x => x.layOut style.layout

def integerText (style : Style) (i : Int) : Except WriteError String :=
  if style.admits (.int i) then .ok (Number.intText i) else .error .tooLong

/-- The member name that a map key is written as. -/
def keyText (style : Style) : Value → Except WriteError String
  | .str s => .ok s
  | .int i => integerText style i
  | .float x => .ok (floatText style x)
  | .bool b => .ok (if b then "true" else "false")
  | .null => .ok "null"
  | v => .error (.badName v.typeName)

mutual

def write (style : Style) : Value → Except WriteError String
  | .null => .ok "null"
  | .bool b => .ok (if b then "true" else "false")
  | .int i => integerText style i
  | .float x => .ok (floatText style x)
  | .str s => .ok (stringText style.ascii s)
  | .list xs => do
    let items ← writeList style xs
    pure ("[" ++ style.comma.intercalate items ++ "]")
  | .tuple xs => do
    let items ← writeList style xs
    pure ("[" ++ style.comma.intercalate items ++ "]")
  | .map es => do
    let members ← writeEntries style es
    pure ("\x7b" ++ style.comma.intercalate members ++ "\x7d")
  | v => if style.admits v then .ok (stringText style.ascii v.display) else .error .tooLong

def writeList (style : Style) : List Value → Except WriteError (List String)
  | [] => .ok []
  | x :: xs => do
    let item ← write style x
    let items ← writeList style xs
    pure (item :: items)

def writeEntries (style : Style) : List (Value × Value) → Except WriteError (List String)
  | [] => .ok []
  | (k, v) :: es => do
    let name ← keyText style k
    let item ← write style v
    let members ← writeEntries style es
    pure ((stringText style.ascii name ++ style.colon ++ item) :: members)

end

end ClusterAccess.Json
