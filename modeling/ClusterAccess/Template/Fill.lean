import ClusterAccess.Template.Layout

/-!
# Filling in templates

The values of a template stand in a row or have names. Conversions take the values of a row in
order, and all of them must be taken; a conversion with a name takes the value of that name. Where
values have names, a conversion without one takes the last named value, or all of them at first. A
list on its own is taken as a whole, and need not be taken.
-/

namespace ClusterAccess.Template

inductive Values
  | row (rest : List Value)
  | named (entries : List (Value × Value)) (current : Option Value)
  | whole (items : List Value) (taken : Bool)
  deriving Repr

namespace Values

/-- Values with names, of which none was taken. -/
def ofEntries (entries : List (Value × Value)) : Values :=
  .named entries (some (.map entries))

def ofOperand : Value → Values
  | .map es => ofEntries es
  | .list xs => .whole xs false
  | v => .row [v]

def next : Values → Except TemplateError (Value × Values)
  | .row [] => .error .tooFewValues
  | .row (v :: rest) => .ok (v, .row rest)
  | .named _ none => .error .tooFewValues
  | .named entries (some v) => .ok (v, .named entries none)
  | .whole _ true => .error .tooFewValues
  | .whole xs false => .ok (.list xs, .whole xs true)

def select (name : Option String) (vs : Values) : Except TemplateError Values :=
  match name, vs with
  | none, vs => .ok vs
  | some _, .row _ => .error .namesRequired
  | some _, .whole _ _ => .error .positionRequired
  | some name, .named entries _ =>
    match Value.field? entries name with
    | some v => .ok (.named entries (some v))
    | none => .error (.missingName name)

def isLeft : Values → Bool
  | .row rest => !rest.isEmpty
  | .named _ _ => false
  | .whole _ _ => false

end Values

/-- The integer that a value gives for a width or a precision, within the range of so many bits. -/
def amountValue (bits : Nat) : Value → Except TemplateError Int
  | .int i =>
    let bound : Int := Number.twoTo (bits - 1)
    if -bound ≤ i ∧ i < bound then .ok i else .error (.amountOutOfRange bits)
  | .bool b => .ok (if b then 1 else 0)
  | _ => .error .amountNotInteger

def widthBits : Nat := 64

def precisionBits : Nat := 32

/-- The size of a width; the least integer has none and stands for zero. -/
def widthOf (i : Int) : Nat :=
  if i = -(Number.twoTo (widthBits - 1) : Int) then 0 else i.natAbs

/-- A width, and whether it asks to pad on the right. -/
def widthFrom (a : Amount) (vs : Values) : Except TemplateError (Nat × Bool × Values) :=
  match a with
  | .absent => .ok (0, false, vs)
  | .number n =>
    if n < Number.twoTo (widthBits - 1) then .ok (n, false, vs) else .error .widthTooBig
  | .next => do
    let (v, vs) ← vs.next
    let i ← amountValue widthBits v
    pure (widthOf i, i < 0, vs)

/-- A precision; a negative one counts as zero. -/
def precisionFrom (a : Amount) (vs : Values) : Except TemplateError (Option Nat × Values) :=
  match a with
  | .absent => .ok (none, vs)
  | .number n =>
    if n < Number.twoTo (precisionBits - 1) then .ok (some n, vs) else .error .precisionTooBig
  | .next => do
    let (v, vs) ← vs.next
    let i ← amountValue precisionBits v
    pure (some i.toNat, vs)

def convert (c : Conversion) (vs : Values) : Except TemplateError (List Char × Values) := do
  let vs ← vs.select c.name
  let (width, left, vs) ← widthFrom c.width vs
  let (precision, vs) ← precisionFrom c.precision vs
  match c.letter with
  | none => .error .incomplete
  | some (letter, position) =>
    let (v, vs) ← vs.next
    let flags := { c.flags with left := c.flags.left || left }
    let w ← write flags precision letter position v
    if longestText < width then .error .textTooLong else pure (w.layOut flags width, vs)

def fillPieces (vs : Values) : List Piece → Except TemplateError (List Char)
  | [] => if vs.isLeft then .error .tooManyValues else .ok []
  | .text c :: rest => (fillPieces vs rest).map (c :: ·)
  | .openName :: _ =>
    match vs with
    | .row _ => .error .namesRequired
    | _ => .error .openName
  | .conversion c :: rest => do
    let (cs, vs) ← convert c vs
    let more ← fillPieces vs rest
    pure (cs ++ more)

def fill (template : String) (vs : Values) : Except TemplateError String :=
  (fillPieces vs (pieces template)).map String.ofList

end ClusterAccess.Template
