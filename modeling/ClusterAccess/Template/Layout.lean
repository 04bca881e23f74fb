import ClusterAccess.Number.Rounded
import ClusterAccess.Template.Basic
import ClusterAccess.Template.Error
import ClusterAccess.Text.Utf16

/-!
# Writing one value

A value is written as its letter asks and then laid out: a sign and a base marker come first, zeros
may fill a number between them and its digits, and blanks fill everything else.
-/

namespace ClusterAccess.Template

/-- What a value is written as, in parts; only numbers take signs and zeros. -/
structure Written where
  numeric : Bool := false
  sign : List Char := []
  marker : List Char := []
  body : List Char
  deriving DecidableEq, Repr

def Flags.defaultSign (f : Flags) : List Char :=
  if f.plus then ['+'] else if f.blank then [' '] else []

def Written.number (f : Flags) (cs : List Char) (marker : List Char := []) : Written :=
  match cs with
  | '-' :: digits => { numeric := true, sign := ['-'], marker := marker, body := digits }
  | digits => { numeric := true, sign := f.defaultSign, marker := marker, body := digits }

def Written.layOut (w : Written) (f : Flags) (width : Nat) : List Char :=
  let front := w.sign ++ w.marker
  let missing := width - (front.length + w.body.length)
  if f.left then front ++ w.body ++ List.replicate missing ' '
  else if f.zero && w.numeric then front ++ List.replicate missing '0' ++ w.body
  else List.replicate missing ' ' ++ front ++ w.body

def upperChar (c : Char) : Char :=
  if 97 ≤ c.toNat ∧ c.toNat ≤ 122 then Char.ofNat (c.toNat - 32) else c

def wholePart (x : Number.Binary64) : Except TemplateError Int :=
  match x.ratio? with
  | some r =>
    let n : Int := (r.num / r.den : Nat)
    .ok (if r.negative then -n else n)
  | none => if x = .nan then .error .noInteger else .error .infiniteInteger

def decimalOf (letter : Char) : Value → Except TemplateError Int
  | .int i => .ok i
  | .bool b => .ok (if b then 1 else 0)
  | .float x => wholePart x
  | v => .error (.numberRequired letter v)

def integerOf (letter : Char) : Value → Except TemplateError Int
  | .int i => .ok i
  | .bool b => .ok (if b then 1 else 0)
  | v => .error (.integerRequired letter v)

def realOf : Value → Except TemplateError Number.Binary64
  | .float x => .ok x
  | .int i =>
    match Number.Binary64.ofRatio ⟨i < 0, i.natAbs, 1⟩ with
    | .infinite _ => .error .integerTooLarge
    | x => .ok x
  | .bool b => .ok (.ofNat (if b then 1 else 0))
  | v => .error (.realRequired v)

/-- The character of a value: a text of length one, or a code point. -/
def characterOf : Value → Except TemplateError Char
  | .str s =>
    match s.toList with
    | [c] => .ok c
    | _ => .error .characterRequired
  | .int i =>
    if i < 0 ∨ 0x10FFFF < i then .error .noSuchCharacter
    else .ok (Text.Utf16.single i.toNat)
  | .bool b => .ok (Char.ofNat (if b then 1 else 0))
  | _ => .error .characterRequired

/-- The most characters that a text is filled up to. -/
def longestText : Nat := Number.twoTo 30

def greatestPrecision : Nat := Number.twoTo 31 - 1

/-- The room that an integer needs beside its digits. -/
def integerFrame : Nat := 3

/-- An integer in a base. Only decimal digits are limited in number. -/
def writeInteger (f : Flags) (precision : Option Nat) (base : Nat) (marker : List Char) (i : Int) :
    Except TemplateError Written :=
  let least := precision.getD 0
  if greatestPrecision < least + integerFrame then .error .precisionTooLarge
  else if base = 10 ∧ (Value.int i).isShowable = false then .error .tooLongToWrite
  else if longestText < least then .error .textTooLong
  else
    let digits := Number.padZeros least (Number.natDigits base i.natAbs)
    .ok (Written.number f (if i < 0 then '-' :: digits else digits)
      (if f.alternate then marker else []))

/-- The digits after the point unless a conversion says otherwise. -/
def defaultPrecision : Nat := 6

/-- The digits after the point. An exponent form has one digit more than that, which the greatest
precision has no room for: it stands for none. -/
def placesFor (form : Number.DigitForm) (precision : Option Nat) : Nat :=
  let places := precision.getD defaultPrecision
  if form = .exponent ∧ greatestPrecision ≤ places then 0 else places

/-- Whether a number is filled up with zeros to its count of digits. -/
def isFilledUp (f : Flags) (form : Number.DigitForm) (x : Number.Binary64) : Bool :=
  x.ratio?.isSome && (f.alternate || form != .general)

def writeReal (f : Flags) (precision : Option Nat) (form : Number.DigitForm)
    (x : Number.Binary64) : Except TemplateError Written :=
  let places := placesFor form precision
  if longestText < places && isFilledUp f form x then .error .textTooLong
  else .ok (Written.number f (x.rounded form f.alternate places))

/-- The text of a value in one of its forms, cut off at a precision. -/
def writeText (precision : Option Nat) (form : Value → String) (v : Value) :
    Except TemplateError Written :=
  if v.isShowable then
    match precision with
    | some n => .ok { body := (form v).toList.take n }
    | none => .ok { body := (form v).toList }
  else .error .tooLongToWrite

def Written.upper (w : Written) : Written :=
  { w with marker := w.marker.map upperChar, body := w.body.map upperChar }

def write (f : Flags) (precision : Option Nat) (letter : Char) (position : Nat) (v : Value) :
    Except TemplateError Written :=
  match letter with
  | 's' => writeText precision Value.display v
  | 'r' => writeText precision Value.quoted v
  | 'a' => writeText precision Value.quotedAscii v
  | 'd' => decimalOf letter v >>= writeInteger f precision 10 []
  | 'i' => decimalOf letter v >>= writeInteger f precision 10 []
  | 'u' => decimalOf letter v >>= writeInteger f precision 10 []
  | 'o' => integerOf letter v >>= writeInteger f precision 8 ['0', 'o']
  | 'x' => integerOf letter v >>= writeInteger f precision 16 ['0', 'x']
  | 'X' => Written.upper <$> (integerOf letter v >>= writeInteger f precision 16 ['0', 'x'])
  | 'e' => realOf v >>= writeReal f precision .exponent
  | 'E' => Written.upper <$> (realOf v >>= writeReal f precision .exponent)
  | 'f' => realOf v >>= writeReal f precision .fixed
  | 'F' => Written.upper <$> (realOf v >>= writeReal f precision .fixed)
  | 'g' => realOf v >>= writeReal f precision .general
  | 'G' => Written.upper <$> (realOf v >>= writeReal f precision .general)
  | 'c' => (characterOf v).map fun c => { body := [c] }
  | c => .error (.unknownLetter c position)

end ClusterAccess.Template
