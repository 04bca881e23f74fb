import ClusterAccess.Number.Numeral

/-!
# Types of scalars

Every node has a tag. A plain scalar without one is typed by its spelling: the words for null and
the truth values, integers in four bases and in base sixty, decimal fractions, and timestamps.
-/

namespace ClusterAccess.Yaml

/-- The tags that have a meaning, and all others as one. -/
inductive Tag
  | null
  | bool
  | int
  | float
  | binary
  | timestamp
  | omap
  | pairs
  | set
  | str
  | seq
  | map
  | merge
  | default
  | unknown
  deriving DecidableEq, Repr, Inhabited

def tagBase : String := "tag:yaml.org,2002:"

def Tag.ofString (s : String) : Tag :=
  if tagBase.toList.isPrefixOf s.toList then
    match String.ofList (s.toList.drop tagBase.length) with
    | "null" => .null
    | "bool" => .bool
    | "int" => .int
    | "float" => .float
    | "binary" => .binary
    | "timestamp" => .timestamp
    | "omap" => .omap
    | "pairs" => .pairs
    | "set" => .set
    | "str" => .str
    | "seq" => .seq
    | "map" => .map
    | "merge" => .merge
    | "value" => .default
    | _ => .unknown
  else .unknown

namespace Implicit

open Number (isDigit)

def dropSign : List Char → List Char
  | '+' :: rest => rest
  | '-' :: rest => rest
  | cs => cs

def someAll (p : Char → Bool) (cs : List Char) : Bool := !cs.isEmpty && cs.all p

def isDigitOrLine (c : Char) : Bool := isDigit c || c == '_'

/-- A digit, then digits and underscores. -/
def isGrouped : List Char → Bool
  | [] => false
  | c :: rest => isDigit c && rest.all isDigitOrLine

/-- A number below sixty of one or two digits. -/
def isSixtieth : List Char → Bool
  | [a] => isDigit a
  | [a, b] => isDigit a && a.toNat ≤ 53 && isDigit b
  | _ => false

def splitColons (cs : List Char) : List (List Char) :=
  match cs with
  | [] => [[]]
  | ':' :: rest => [] :: splitColons rest
  | c :: rest =>
    match splitColons rest with
    | [] => [[c]]
    | p :: ps => (c :: p) :: ps

/-- A number and at least one more in base sixty. -/
def isSexagesimal (cs : List Char) : Bool :=
  match splitColons cs with
  | first :: rest => isGrouped first && !rest.isEmpty && rest.all isSixtieth
  | [] => false

def isHexOrLine (c : Char) : Bool :=
  c == '_' || ((Number.baseDigit? c).any fun d => d < 16)

def isInt (cs : List Char) : Bool :=
  let cs := dropSign cs
  match cs with
  | '0' :: 'b' :: rest => someAll (fun c => c == '0' || c == '1' || c == '_') rest
  | '0' :: 'x' :: rest => someAll isHexOrLine rest
  | '0' :: rest => rest.all fun c => c == '_' || (isDigit c && c.toNat ≤ 55)
  | _ => isGrouped cs || isSexagesimal cs

def isExponent : List Char → Bool
  | [] => true
  | e :: s :: rest =>
    (e == 'e' || e == 'E') && (s == '+' || s == '-') && someAll isDigit rest
  | _ => false

def isInfinity (cs : List Char) : Bool :=
  [".inf", ".Inf", ".INF"].contains (String.ofList (dropSign cs))

def isNan (cs : List Char) : Bool :=
  [".nan", ".NaN", ".NAN"].contains (String.ofList cs)

def isFraction (cs : List Char) : Bool :=
  isExponent (cs.dropWhile isDigitOrLine)

def isFloat (cs : List Char) : Bool :=
  let unsigned := dropSign cs
  let whole := unsigned.takeWhile fun c => c != '.'
  let behind := (unsigned.dropWhile fun c => c != '.').drop 1
  let pointed := unsigned.contains '.'
  (pointed && isGrouped whole && isFraction behind) ||
    (match cs with
      | '.' :: c :: rest => isDigit c && isFraction rest
      | _ => false) ||
    (pointed && isSexagesimal whole && behind.all isDigitOrLine) ||
    isInfinity cs || isNan cs

def boolWords : List String :=
  ["yes", "Yes", "YES", "no", "No", "NO", "true", "True", "TRUE", "false", "False", "FALSE",
    "on", "On", "ON", "off", "Off", "OFF"]

def nullWords : List String := ["~", "null", "Null", "NULL"]

end Implicit

structure Stamp where
  year : List Char
  month : List Char
  day : List Char
  time : Option (List Char × List Char × List Char) := none
  fraction : List Char := []
  /-- The sign, the hours and the minutes of an offset; a lone `Z` has no sign. -/
  zone : Option (Option Char × List Char × List Char) := none

namespace Stamp

open Number (isDigit)

def digits (n : Nat) (cs : List Char) : List Char × List Char :=
  let run := (cs.take n).takeWhile isDigit
  (run, cs.drop run.length)

def exactly (n : Nat) (cs : List Char) : Option (List Char × List Char) :=
  let (run, rest) := digits n cs
  if run.length = n then some (run, rest) else none

def oneOrTwo (cs : List Char) : Option (List Char × List Char) :=
  let (run, rest) := digits 2 cs
  if run.isEmpty then none else some (run, rest)

def expect (c : Char) : List Char → Option (List Char)
  | d :: rest => if c = d then some rest else none
  | [] => none

def isBlank (c : Char) : Bool := c == ' ' || c == '\t'

def zone? (cs : List Char) : Option (Option (Option Char × List Char × List Char)) :=
  match cs with
  | [] => some none
  | cs =>
    match cs.dropWhile isBlank with
    | ['Z'] => some (some (none, [], []))
    | s :: rest =>
      if s == '+' || s == '-' then do
        let (hours, rest) ← oneOrTwo rest
        match rest with
        | [] => some (some (some s, hours, []))
        | ':' :: rest => do
          let (minutes, rest) ← exactly 2 rest
          if rest.isEmpty then some (some (some s, hours, minutes)) else none
        | _ => none
      else none
    | [] => none

def parse? (cs : List Char) : Option Stamp := do
  let (year, rest) ← exactly 4 cs
  let (month, rest) ← oneOrTwo (← expect '-' rest)
  let (day, rest) ← oneOrTwo (← expect '-' rest)
  match rest with
  | [] => some { year := year, month := month, day := day }
  | c :: more => do
    let rest ←
      if c == 'T' || c == 't' then some more
      else if isBlank c then some (more.dropWhile isBlank)
      else none
    let (hour, rest) ← oneOrTwo rest
    let (minute, rest) ← exactly 2 (← expect ':' rest)
    let (second, rest) ← exactly 2 (← expect ':' rest)
    let (fraction, rest) :=
      match rest with
      | '.' :: rest => (rest.takeWhile isDigit, rest.dropWhile isDigit)
      | rest => ([], rest)
    let zone ← zone? rest
    some { year := year, month := month, day := day, time := some (hour, minute, second)
           fraction := fraction, zone := zone }

/-- A plain date is a timestamp only with two digits each for month and day. -/
def isImplicit (cs : List Char) : Bool :=
  match parse? cs with
  | some s => s.time.isSome || (s.month.length == 2 && s.day.length == 2)
  | none => false

end Stamp

/-- A line end at the very end does not count for the type of a scalar. -/
def withoutFinalBreak (cs : List Char) : List Char :=
  match cs.reverse with
  | '\n' :: rest => rest.reverse
  | _ => cs

def Tag.implied (text : String) : Tag :=
  let cs := withoutFinalBreak text.toList
  let word := String.ofList cs
  if Implicit.boolWords.contains word then .bool
  else if Implicit.isFloat cs then .float
  else if Implicit.isInt cs then .int
  else if word == "<<" then .merge
  else if text = "" ∨ Implicit.nullWords.contains word then .null
  else if Stamp.isImplicit cs then .timestamp
  else if word == "=" then .default
  else if word == "!" || word == "&" || word == "*" then .unknown
  else .str

end ClusterAccess.Yaml
