import ClusterAccess.Fault.Failure
import ClusterAccess.Number.Literal
import ClusterAccess.Text.LetterCase
import ClusterAccess.Yaml.Implicit

/-!
# Contents of scalars

`Scalar.content` reads the text of a scalar as its tag asks.
-/

namespace ClusterAccess.Yaml

inductive ContentError
  /-- The tag is unknown, or does not suit the node. -/
  | malformed
  | scalar (e : ScalarError)
  deriving DecidableEq, Repr

namespace Scalar

def dropUnderscores (cs : List Char) : List Char := cs.filter fun c => c != '_'

def sign (cs : List Char) : Except ScalarError (Bool × List Char) :=
  match cs with
  | [] => .error .emptyNumber
  | '-' :: rest => .ok (true, rest)
  | '+' :: rest => .ok (false, rest)
  | cs => .ok (false, cs)

def digitLimit : Nat := 4300

def int (base : Nat) (cs : List Char) : Except ScalarError Int :=
  if base = 10 ∧ digitLimit < Number.leadingDigits cs then
    .error (.tooManyDigits (Number.leadingDigits cs))
  else
    match Number.intLiteral? base cs with
    | some i => .ok i
    | none => .error (.notAnInteger base (String.ofList cs))

def float (cs : List Char) : Except ScalarError Number.Binary64 :=
  match Number.floatLiteral? cs with
  | some x => .ok x
  | none => .error (.notANumber (String.ofList cs))

/-- The value of an integer's spelling: binary, hexadecimal, octal, in base sixty or decimal. -/
def integer (text : String) : Except ScalarError Int := do
  let (negative, cs) ← sign (dropUnderscores text.toList)
  let signed (i : Int) : Int := if negative then -i else i
  match cs with
  | ['0'] => pure 0
  | '0' :: 'b' :: rest => signed <$> int 2 rest
  | '0' :: 'x' :: rest => signed <$> int 16 rest
  | '0' :: _ => signed <$> int 8 cs
  | [] => .error .emptyNumber
  | _ =>
    if cs.contains ':' then do
      let parts ← (Implicit.splitColons cs).mapM (int 10)
      pure (signed (parts.foldl (fun acc d => acc * 60 + d) 0))
    else signed <$> int 10 cs

/-- The sum of parts in base sixty, added up from the last. -/
def sixtieths : Number.Binary64 → Nat → List Number.Binary64 → Except ScalarError Number.Binary64
  | acc, _, [] => .ok acc
  | acc, base, x :: xs =>
    match Number.Binary64.ofNat base with
    | .infinite _ => .error .integerTooLarge
    | factor => sixtieths (acc.add (x.mul factor)) (base * 60) xs

def number (text : String) : Except ScalarError Number.Binary64 := do
  let lowered := (Text.lower (String.ofList (dropUnderscores text.toList))).toList
  let (negative, cs) ← sign lowered
  let signed (x : Number.Binary64) : Number.Binary64 := if negative then x.neg else x
  if cs = ".inf".toList then pure (.infinite negative)
  else if cs = ".nan".toList then pure .nan
  else if cs.contains ':' then do
    let parts ← (Implicit.splitColons cs).mapM float
    signed <$> sixtieths (Number.Binary64.ofNat 0) 1 parts.reverse
  else signed <$> float cs

def trueWords : List String := ["yes", "true", "on"]

def falseWords : List String := ["no", "false", "off"]

def truth (text : String) : Except ScalarError Bool :=
  let word := Text.lower text
  if trueWords.contains word then .ok true
  else if falseWords.contains word then .ok false
  else .error (.notAWord word)

def natOf (cs : List Char) : Nat := (Number.nat? 10 cs).getD 0

def offset : Option (Option Char × List Char × List Char) → Option Int
  | none => none
  | some (none, _, _) => some 0
  | some (some s, hours, minutes) =>
    let total : Int := natOf hours * 60 + natOf minutes
    some (if s == '-' then -total else total)

/-- Six digits of a fraction of a second. -/
def micros (fraction : List Char) : Nat :=
  let six := fraction.take 6
  natOf (six ++ List.replicate (6 - six.length) '0')

def timestamp (text : String) : Except ScalarError Value :=
  match Stamp.parse? (withoutFinalBreak text.toList) with
  | none => .error .notAMoment
  | some s =>
    let date : Date := { year := natOf s.year, month := natOf s.month, day := natOf s.day }
    match s.time with
    | none =>
      match date.check with
      | .ok d => .ok (.date d)
      | .error e => .error (.date e)
    | some (hour, minute, second) =>
      let m : Moment :=
        { date := date, hour := natOf hour, minute := natOf minute, second := natOf second
          micro := micros s.fraction, offset := offset s.zone }
      match m.check with
      | .ok m => .ok (.moment m)
      | .error e => .error (.date e)

/-- Bytes written as base64; characters outside ASCII are not allowed. -/
def binary (text : String) : Except ContentError Value :=
  if text.toList.any fun c => 0x80 ≤ c.toNat then .error .malformed
  else
    match Text.Base64.decode .lenient text.toList with
    | .ok bs => .ok (.bytes bs)
    | .error _ => .error .malformed

def content (tag : Tag) (text : String) : Except ContentError Value :=
  let wrap (e : Except ScalarError Value) : Except ContentError Value := e.mapError .scalar
  match tag with
  | .null => .ok .null
  | .bool => wrap ((truth text).map .bool)
  | .int => wrap ((integer text).map .int)
  | .float => wrap ((number text).map .float)
  | .timestamp => wrap (timestamp text)
  | .binary => binary text
  | .str => .ok (.str text)
  | _ => .error .malformed

def isScalarTag (tag : Tag) : Bool :=
  [Tag.null, .bool, .int, .float, .timestamp, .binary, .str].contains tag

end Scalar

end ClusterAccess.Yaml
