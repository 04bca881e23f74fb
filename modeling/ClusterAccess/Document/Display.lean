import ClusterAccess.Document.Value

/-!
# Texts of values

`quoted` is the form of a value inside a collection and `display` its form on its own: the two
differ for texts, dates and kinds.
-/

namespace ClusterAccess.Value

def bracketed (opening closing : String) (items : List String) : String :=
  opening ++ ", ".intercalate items ++ closing

mutual

def quoted : Value → String
  | .null => "None"
  | .bool b => if b then "True" else "False"
  | .int i => Number.intText i
  | .float x => x.text
  | .str s => Text.Quoted.ofString s
  | .bytes bs => Text.Quoted.ofBytes bs
  | .date d => d.describe
  | .moment m => m.describe
  | .list xs => bracketed "[" "]" (quotedList xs)
  | .tuple [x] => "(" ++ quoted x ++ ",)"
  | .tuple xs => bracketed "(" ")" (quotedList xs)
  | .map es => bracketed "\x7b" "\x7d" (quotedEntries es)
  | .set [] => "set()"
  | .set xs => bracketed "\x7b" "\x7d" (quotedList xs)
  | .kind k => k.describe
  | .reference r => r.describe
  | .knot _ v => quoted v
  | .loop _ isMap => if isMap then "\x7b...\x7d" else "[...]"

def quotedList : List Value → List String
  | [] => []
  | x :: xs => quoted x :: quotedList xs

def quotedEntries : List (Value × Value) → List String
  | [] => []
  | (k, v) :: es => (quoted k ++ ": " ++ quoted v) :: quotedEntries es

end

def describeFields (typeLabel : String) (fields : List (String × String)) : String :=
  bracketed (typeLabel ++ "(") ")" (fields.map fun f => f.1 ++ "=" ++ f.2)

/-- The most decimal digits of an integer that is written. -/
def maxDigits : Nat := 4300

/-- What is said of an integer with more digits. -/
def tooLongText : String :=
  "Exceeds the limit (4300 digits) for integer string conversion; " ++
    "use sys.set_int_max_str_digits() to increase the limit"

mutual

/-- Whether a value holds no integer that is too long to be written. -/
def isShowable : Value → Bool
  | .int i => i.natAbs < Number.tenTo maxDigits
  | .list xs => areShowable xs
  | .tuple xs => areShowable xs
  | .set xs => areShowable xs
  | .map es => areEntriesShowable es
  | .knot _ v => isShowable v
  | _ => true

def areShowable : List Value → Bool
  | [] => true
  | x :: xs => isShowable x && areShowable xs

def areEntriesShowable : List (Value × Value) → Bool
  | [] => true
  | (k, v) :: es => isShowable k && isShowable v && areEntriesShowable es

end

def display : Value → String
  | .str s => s
  | .date d => d.display
  | .moment m => m.display
  | .kind k => k.display
  | .reference r => r.display
  | v => v.quoted

/-- The display text with everything outside printable ASCII escaped. -/
def quotedAscii (v : Value) : String :=
  String.ofList ((v.quoted.toList).flatMap fun c =>
    if c.toNat < 0x80 then [c] else Text.Quoted.escapeChar c)

end ClusterAccess.Value
