import ClusterAccess.Document.Display

/-!
# Faulty templates

Why a template cannot be filled in with the values at hand.
-/

namespace ClusterAccess

inductive TemplateError
  | incomplete
  | openName
  /-- A named value where the values have no names. -/
  | namesRequired
  | missingName (name : String)
  /-- A named value of a list. -/
  | positionRequired
  | tooFewValues
  | tooManyValues
  | amountNotInteger
  | widthTooBig
  | precisionTooBig
  /-- A precision that leaves an integer no room for its sign and marker. -/
  | precisionTooLarge
  /-- A width that no text can have. -/
  | textTooLong
  /-- A width or precision beyond the range of the machine's integers. -/
  | amountOutOfRange (bits : Nat)
  | unknownLetter (letter : Char) (position : Nat)
  | integerRequired (letter : Char) (found : Value)
  | numberRequired (letter : Char) (found : Value)
  | realRequired (found : Value)
  | noInteger
  | infiniteInteger
  | integerTooLarge
  /-- A value with an integer that has too many digits. -/
  | tooLongToWrite
  | characterRequired
  | noSuchCharacter
  deriving Repr

namespace TemplateError

/-- A letter as an error shows it; only printable ones are shown. -/
def shownLetter (c : Char) : Char :=
  if 31 ≤ c.toNat ∧ c.toNat < 127 then c else '?'

def message : TemplateError → String
  | .incomplete => "incomplete format"
  | .openName => "incomplete format key"
  | .namesRequired => "format requires a mapping"
  | .missingName name => Text.Quoted.ofString name
  | .positionRequired => "list indices must be integers or slices, not str"
  | .tooFewValues => "not enough arguments for format string"
  | .tooManyValues => "not all arguments converted during string formatting"
  | .amountNotInteger => "* wants int"
  | .widthTooBig => "width too big"
  | .precisionTooBig => "precision too big"
  | .precisionTooLarge => "precision too large"
  | .textTooLong => ""
  | .amountOutOfRange bits =>
    "Python int too large to convert to C " ++ (if bits = 64 then "ssize_t" else "int")
  | .unknownLetter c position =>
    "unsupported format character '" ++ (shownLetter c).toString ++ "' (0x" ++
      String.ofList (Number.natDigits 16 c.toNat) ++ ") at index " ++ Number.natText position
  | .integerRequired c v =>
    "%" ++ c.toString ++ " format: an integer is required, not " ++ v.typeName
  | .numberRequired c v =>
    "%" ++ c.toString ++ " format: a real number is required, not " ++ v.typeName
  | .realRequired v => "must be real number, not " ++ v.typeName
  | .noInteger => "cannot convert float NaN to integer"
  | .infiniteInteger => "cannot convert float infinity to integer"
  | .integerTooLarge => "int too large to convert to float"
  | .tooLongToWrite => Value.tooLongText
  | .characterRequired => "%c requires int or char"
  | .noSuchCharacter => "%c arg not in range(0x110000)"

end TemplateError
end ClusterAccess
