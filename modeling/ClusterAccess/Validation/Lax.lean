import ClusterAccess.Document.Value
import ClusterAccess.Number.Literal
import ClusterAccess.Text.Utf8
import ClusterAccess.Validation.Issue

/-!
# Lenient readings of values

A field that asks for a text, an integer or a truth value takes a value of that type as it is, and
also the spellings listed here: bytes for a text, digits for an integer, words for a truth value.
-/

namespace ClusterAccess.Lax

/-- A text, or bytes that spell one. -/
def text : Value → Check String
  | .str s => .ok s
  | .bytes bs =>
    match Text.Utf8.toString? bs with
    | some s => .ok s
    | none => Check.refuse .stringUnicode
  | _ => Check.refuse .stringType

def optionalText : Value → Check (Option String)
  | .null => .ok none
  | v => (text v).map some

def splitSign : List Char → Bool × List Char
  | '+' :: rest => (false, rest)
  | '-' :: rest => (true, rest)
  | cs => (false, cs)

/-- The number behind the zeros and underscores at its front, where `last` is the character before
it; a zero in front of a point belongs to the number, and so does a minus sign behind a zero. -/
def behindZeros? (last : Char) : List Char → Option (List Char)
  | [] => some [last]
  | c :: rest =>
    if c = '0' ∨ c = '_' then behindZeros? c rest
    else if c = '.' then some (last :: c :: rest)
    else if c = '-' ∨ Number.isDigit c then some (c :: rest)
    else none

/-- The number without zeros in front, none if it starts with no digit. -/
def dropLeadingZeros? : List Char → Option (List Char)
  | [] => none
  | c :: rest =>
    if c = '0' then behindZeros? c rest
    else if Number.isDigit c then some (c :: rest)
    else none

def dropZeroFraction (cs : List Char) : List Char :=
  let whole := cs.takeWhile (· != '.')
  match cs.dropWhile (· != '.') with
  | '.' :: '0' :: zeros => if zeros.all (· == '0') then whole else cs
  | _ => cs

def hasDoubleUnderscore : List Char → Bool
  | '_' :: '_' :: _ => true
  | _ :: rest => hasDoubleUnderscore rest
  | [] => false

/-- The text without underscores, if each stands alone and none at an end. -/
def dropUnderscores (cs : List Char) : List Char :=
  if cs.head? = some '_' ∨ cs.getLast? = some '_' ∨ hasDoubleUnderscore cs then cs
  else cs.filter (· != '_')

/-- The most digits that an integer may have. -/
def maxDigits : Nat := 4300

/-- Whether a text without a minus sign starts with more digits than an integer may have. -/
def isTooLong (cs : List Char) : Bool :=
  cs.head? != some '0' && maxDigits < (cs.takeWhile Number.isDigit).length

def splitMinus : List Char → Bool × List Char
  | '-' :: rest => (true, rest)
  | cs => (false, cs)

/-- The integer that a plain numeral spells: perhaps a minus sign, and digits without a zero in
front, of which there are not too many. -/
def plainInteger? (cs : List Char) : Option Int :=
  let (negative, cs) := splitMinus cs
  if isTooLong cs ∨ (cs.head? = some '0' ∧ cs ≠ ['0']) then none
  else (Number.nat? 10 cs).map fun n => if negative then -(n : Int) else n

/-- The plain numeral behind a loose one: a sign, zeros, digits with single underscores, perhaps a
fraction of zeros, and white space around all of it. -/
def plainNumeral? (cs : List Char) : Option (List Char) :=
  let (negative, cs) := splitSign (Text.trimBy Number.isPadding cs)
  (dropLeadingZeros? cs).map fun cs =>
    let cs := dropUnderscores (dropZeroFraction cs)
    if negative then '-' :: cs else cs

/-- The integer that a text spells, as a plain numeral or as a loose one. Only a text that starts as
a plain numeral is reported as too long. -/
def parseInt (s : String) : Check Int :=
  let cs := s.toList
  match plainInteger? cs with
  | some i => .ok i
  | none =>
    if isTooLong (splitMinus cs).2 then Check.refuse .intParsingSize
    else
      match (plainNumeral? cs).bind plainInteger? with
      | some i => .ok i
      | none => Check.refuse .intParsing

def isWord (i : Int) : Bool := -(Number.twoTo 63 : Int) ≤ i && i < Number.twoTo 63

/-- The integer that a number with a point stands for: one inside the range of a signed word of
64 bits, both ends left out. -/
def wholeNumber (x : Number.Binary64) : Check Int :=
  match x.int? with
  | some i =>
    if -(Number.twoTo 63 : Int) < i && i < Number.twoTo 63 then .ok i
    else Check.refuse .intParsingSize
  | none => Check.refuse (if x.ratio?.isSome then .intFromFloat else .finiteNumber)

/-- An integer, a truth value, a whole number or a text that spells an integer. -/
def integer : Value → Check Int
  | .int i => .ok i
  | .bool b => .ok (if b then 1 else 0)
  | .float x => wholeNumber x
  | .str s => parseInt s
  | .bytes bs =>
    match Text.Utf8.toString? bs with
    | some s => parseInt s
    | none => Check.refuse .intParsing
  | _ => Check.refuse .intType

def lowerAscii (c : Char) : Char :=
  if 65 ≤ c.toNat ∧ c.toNat ≤ 90 then Char.ofNat (c.toNat + 32) else c

def trueWords : List String := ["1", "t", "y", "on", "yes", "true"]

def falseWords : List String := ["0", "f", "n", "no", "off", "false"]

def parseBool (s : String) : Check Bool :=
  let word := String.ofList (s.toList.map lowerAscii)
  if trueWords.contains word then .ok true
  else if falseWords.contains word then .ok false
  else Check.refuse .boolParsing

/-- One and zero as truth values. An integer beyond 64 bits is none. -/
def boolOfInt (i : Int) : Check Bool :=
  if i = 1 then .ok true
  else if i = 0 then .ok false
  else Check.refuse (if isWord i then .boolParsing else .boolType)

/-- A truth value, one or zero, or a word for it. -/
def boolean : Value → Check Bool
  | .bool b => .ok b
  | .str s => parseBool s
  | .bytes bs =>
    match Text.Utf8.toString? bs with
    | some s => parseBool s
    | none => Check.refuse .boolParsing
  | .int i => boolOfInt i
  | .float x =>
    match wholeNumber x with
    | .ok i => boolOfInt i
    | .error _ => Check.refuse .boolType
  | _ => Check.refuse .boolType

def required {α : Type} (entries : List (Value × Value)) (name : String) (check : Value → Check α) :
    Check α :=
  Check.within (.field name)
    (match Value.field? entries name with
      | some v => check v
      | none => Check.refuse .missing)

def optional {α : Type} (entries : List (Value × Value)) (name : String) (default : α)
    (check : Value → Check α) : Check α :=
  match Value.field? entries name with
  | some v => Check.within (.field name) (check v)
  | none => .ok default

end ClusterAccess.Lax
