import ClusterAccess.Document.Value
import ClusterAccess.Text.Hex
import ClusterAccess.Text.Utf16

/-!
# Reading JSON

`parse?` accepts one JSON text and gives its value: an object becomes a map with text keys, all its
members in their order, a number with neither point nor exponent an integer and any other a
double-precision number. `read?` also settles members with one name: the later value wins at the
place of the earlier.
-/

namespace ClusterAccess.Json

open Number (Binary64)

def isSpace (c : Char) : Bool :=
  c == ' ' || c == '\t' || c == '\n' || c == '\r'

def skipSpace (cs : List Char) : List Char :=
  cs.dropWhile isSpace

def simpleEscape? (c : Char) : Option Char :=
  match c with
  | '"' => some '"'
  | '\\' => some '\\'
  | '/' => some '/'
  | 'b' => some '\x08'
  | 'f' => some '\x0c'
  | 'n' => some '\n'
  | 'r' => some '\r'
  | 't' => some '\t'
  | _ => none

/-- The code units of a string up to its closing quote, and what follows the quote. -/
def units? : List Char → Option (List Nat × List Char)
  | [] => none
  | '"' :: rest => some ([], rest)
  | '\\' :: 'u' :: a :: b :: c :: d :: rest => do
    let n ← Text.Hex.toNat? 0 [a, b, c, d]
    let (us, rest) ← units? rest
    some (n :: us, rest)
  | '\\' :: c :: rest => do
    let e ← simpleEscape? c
    let (us, rest) ← units? rest
    some (e.toNat :: us, rest)
  | c :: rest =>
    if c.toNat < 0x20 then none
    else do
      let (us, rest) ← units? rest
      some (c.toNat :: us, rest)

def string? (cs : List Char) : Option (String × List Char) :=
  (units? cs).map fun r => (String.ofList (Text.Utf16.join r.1), r.2)

def isNumberChar (c : Char) : Bool :=
  Number.isDigit c || c == '-' || c == '+' || c == '.' || c == 'e' || c == 'E'

def digitRun (cs : List Char) : List Char × List Char :=
  (cs.takeWhile Number.isDigit, cs.dropWhile Number.isDigit)

/-- The exponent part of a number, which must be all that is left. -/
def exponent? : List Char → Option Int
  | [] => some 0
  | c :: rest =>
    if c == 'e' || c == 'E' then
      match rest with
      | '-' :: ds => (Number.nat? 10 ds).map fun n => -(n : Int)
      | '+' :: ds => (Number.nat? 10 ds).map fun n => (n : Int)
      | ds => (Number.nat? 10 ds).map fun n => (n : Int)
    else none

def number? (cs : List Char) : Option Value :=
  let (negative, cs) :=
    match cs with
    | '-' :: rest => (true, rest)
    | _ => (false, cs)
  let (whole, rest) := digitRun cs
  if whole.isEmpty || (whole.length != 1 && whole.head? == some '0') then none
  else
    match rest with
    | [] => (Number.nat? 10 whole).map fun n => .int (if negative then -(n : Int) else n)
    | '.' :: rest =>
      let (frac, rest) := digitRun rest
      if frac.isEmpty then none
      else do
        let e ← exponent? rest
        let n ← Number.nat? 10 (whole ++ frac)
        some (.float (Binary64.ofDecimal negative n (e - frac.length)))
    | rest => do
      let e ← exponent? rest
      let n ← Number.nat? 10 whole
      some (.float (Binary64.ofDecimal negative n e))

def literal? (name : String) (v : Value) (cs : List Char) : Option (Value × List Char) :=
  if name.toList.isPrefixOf cs then some (v, cs.drop name.length) else none

mutual

def value? : Nat → List Char → Option (Value × List Char)
  | 0, _ => none
  | fuel + 1, cs =>
    match skipSpace cs with
    | [] => none
    | '"' :: rest => (string? rest).map fun r => (.str r.1, r.2)
    | '[' :: rest =>
      match skipSpace rest with
      | ']' :: rest => some (.list [], rest)
      | rest => (elements? fuel rest).map fun r => (.list r.1, r.2)
    | '\x7b' :: rest =>
      match skipSpace rest with
      | '\x7d' :: rest => some (.map [], rest)
      | rest => (members? fuel rest).map fun r => (.map r.1, r.2)
    | 't' :: rest => literal? "true" (.bool true) ('t' :: rest)
    | 'f' :: rest => literal? "false" (.bool false) ('f' :: rest)
    | 'n' :: rest => literal? "null" .null ('n' :: rest)
    | cs => (number? (cs.takeWhile isNumberChar)).map fun v => (v, cs.dropWhile isNumberChar)

def elements? : Nat → List Char → Option (List Value × List Char)
  | 0, _ => none
  | fuel + 1, cs => do
    let (v, rest) ← value? fuel cs
    match skipSpace rest with
    | ',' :: rest => do
      let (vs, rest) ← elements? fuel rest
      some (v :: vs, rest)
    | ']' :: rest => some ([v], rest)
    | _ => none

/-- The members of an object up to its closing brace. -/
def members? : Nat → List Char → Option (List (Value × Value) × List Char)
  | 0, _ => none
  | fuel + 1, cs =>
    match skipSpace cs with
    | '"' :: rest => do
      let (name, rest) ← string? rest
      match skipSpace rest with
      | ':' :: rest => do
        let (v, rest) ← value? fuel rest
        match skipSpace rest with
        | ',' :: rest => do
          let (es, rest) ← members? fuel rest
          some ((.str name, v) :: es, rest)
        | '\x7d' :: rest => some ([(.str name, v)], rest)
        | _ => none
      | _ => none
    | _ => none

end

def parse? (s : String) : Option Value :=
  match value? (2 * s.length + 2) s.toList with
  | some (v, rest) => if (skipSpace rest).isEmpty then some v else none
  | none => none

mutual

/-- A value whose maps have each key once, with the value that came last. -/
def settle : Value → Value
  | .list xs => .list (settleList xs)
  | .map es => .map (settleEntries [] es)
  | v => v

def settleList : List Value → List Value
  | [] => []
  | x :: xs => settle x :: settleList xs

/-- Entries added to those that came before. -/
def settleEntries (before : List (Value × Value)) : List (Value × Value) → List (Value × Value)
  | [] => before
  | (k, v) :: es => settleEntries (Value.put before k (settle v)) es

end

def read? (s : String) : Option Value :=
  (parse? s).map settle

end ClusterAccess.Json
