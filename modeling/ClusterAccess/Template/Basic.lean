import ClusterAccess.Number.Numeral

/-!
# Templates

A template is a text with conversions in it. A conversion is a percent sign, perhaps a name between
parentheses, flags, a width and a precision, and a letter that says how a value is written. Reading
a template never fails: what is left open at its end is a piece of its own.
-/

namespace ClusterAccess.Template

structure Flags where
  /-- Pad on the right. -/
  left : Bool := false
  /-- A plus sign in front of what has no sign. -/
  plus : Bool := false
  /-- A blank in front of what has no sign. -/
  blank : Bool := false
  /-- The alternate form. -/
  alternate : Bool := false
  /-- Pad numbers with zeros. -/
  zero : Bool := false
  deriving DecidableEq, Repr

/-- A width or a precision: none, that of the next value, or a number. -/
inductive Amount
  | absent
  | next
  | number (n : Nat)
  deriving DecidableEq, Repr

structure Conversion where
  /-- The name of the value; a conversion without one takes the next value. -/
  name : Option String := none
  flags : Flags := {}
  width : Amount := .absent
  precision : Amount := .absent
  /-- The letter and its position, unless the template ends before it. -/
  letter : Option (Char × Nat) := none
  deriving DecidableEq, Repr

inductive Piece
  | text (c : Char)
  | conversion (c : Conversion)
  | openName
  deriving DecidableEq, Repr

def Flags.set? (f : Flags) : Char → Option Flags
  | '-' => some { f with left := true }
  | '+' => some { f with plus := true }
  | ' ' => some { f with blank := true }
  | '#' => some { f with alternate := true }
  | '0' => some { f with zero := true }
  | _ => none

def flagsOf (f : Flags) : List Char → Flags × List Char
  | [] => (f, [])
  | c :: rest =>
    match f.set? c with
    | some f => flagsOf f rest
    | none => (f, c :: rest)

def numberOf (n : Nat) : List Char → Nat × List Char
  | [] => (n, [])
  | c :: rest =>
    match Number.digitValue? c with
    | some d => numberOf (n * 10 + d) rest
    | none => (n, c :: rest)

/-- A width or the number after a point; without digits it is the given one. -/
def amountOf (default : Amount) : List Char → Amount × List Char
  | '*' :: rest => (.next, rest)
  | c :: rest =>
    if Number.isDigit c then
      let (n, rest) := numberOf 0 (c :: rest)
      (.number n, rest)
    else (default, c :: rest)
  | [] => (default, [])

def precisionOf : List Char → Amount × List Char
  | '.' :: rest => amountOf (.number 0) rest
  | cs => (.absent, cs)

/-- One letter for a size of numbers is passed over. -/
def skipSize : List Char → List Char
  | 'h' :: rest => rest
  | 'l' :: rest => rest
  | 'L' :: rest => rest
  | cs => cs

/-- A name up to the parenthesis that closes the `depth` open ones, and what follows it. -/
def nameOf? (depth : Nat) : List Char → Option (List Char × List Char)
  | [] => none
  | ')' :: rest =>
    match depth with
    | 0 => some ([], rest)
    | depth + 1 => (nameOf? depth rest).map fun r => (')' :: r.1, r.2)
  | c :: rest =>
    (nameOf? (if c = '(' then depth + 1 else depth) rest).map fun r => (c :: r.1, r.2)

/-- A conversion after its name, and what follows it; `total` is the length of the template. -/
def conversionOf (total : Nat) (name : Option String) (cs : List Char) : Conversion × List Char :=
  let (flags, cs) := flagsOf {} cs
  let (width, cs) := amountOf .absent cs
  let (precision, cs) := precisionOf cs
  let cs := skipSize cs
  let conversion : Conversion :=
    { name := name, flags := flags, width := width, precision := precision }
  match cs with
  | [] => (conversion, [])
  | c :: rest => ({ conversion with letter := some (c, total - cs.length) }, rest)

/-- The piece after a percent sign, and what follows it. A doubled percent sign stands for one. -/
def pieceOf (total : Nat) : List Char → Piece × List Char
  | '%' :: rest => (.text '%', rest)
  | '(' :: cs =>
    match nameOf? 0 cs with
    | none => (.openName, [])
    | some (name, rest) =>
      let (c, rest) := conversionOf total (some (String.ofList name)) rest
      (.conversion c, rest)
  | cs =>
    let (c, rest) := conversionOf total none cs
    (.conversion c, rest)

/-- The pieces of a text; `fuel` is at least its length. -/
def piecesOf (total : Nat) : Nat → List Char → List Piece
  | 0, _ => []
  | _, [] => []
  | fuel + 1, '%' :: rest =>
    let (piece, rest) := pieceOf total rest
    piece :: piecesOf total fuel rest
  | fuel + 1, c :: rest => .text c :: piecesOf total fuel rest

def pieces (template : String) : List Piece :=
  let cs := template.toList
  piecesOf cs.length cs.length cs

end ClusterAccess.Template
