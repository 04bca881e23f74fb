import ClusterAccess.Text.Hex
import ClusterAccess.Text.Utf16
import ClusterAccess.Yaml.Cursor

/-!
# Quoted scalars

Between single quotes a doubled quote is the only escape; between double quotes a backslash starts
one. A line end inside the quotes is a blank, further line ends after it are kept.
-/

namespace ClusterAccess.Yaml.Quoted

def replacement? (c : Char) : Option Nat :=
  match c with
  | '0' => some 0x00
  | 'a' => some 0x07
  | 'b' => some 0x08
  | 't' => some 0x09
  | '\t' => some 0x09
  | 'n' => some 0x0A
  | 'v' => some 0x0B
  | 'f' => some 0x0C
  | 'r' => some 0x0D
  | 'e' => some 0x1B
  | ' ' => some 0x20
  | '"' => some 0x22
  | '\\' => some 0x5C
  | '/' => some 0x2F
  | 'N' => some 0x85
  | '_' => some 0xA0
  | 'L' => some 0x2028
  | 'P' => some 0x2029
  | _ => none

def escapeWidth? (c : Char) : Option Nat :=
  match c with
  | 'x' => some 2
  | 'u' => some 4
  | 'U' => some 8
  | _ => none

/-- Line ends and the blanks around them; a document separator is not allowed here. -/
def breaks : Nat → Cursor → Except Trouble (List Nat × Cursor)
  | 0, _ => .error .malformed
  | fuel + 1, c =>
    if c.atSeparator then .error .malformed
    else
      let c := c.skipWhile fun ch => ch == ' ' || ch == '\t'
      match c.lineBreak with
      | (some b, c) => do
        let (bs, c) ← breaks fuel c
        pure (b.toNat :: bs, c)
      | (none, c) => .ok ([], c)

def codePoint (width : Nat) (c : Cursor) : Except Trouble Nat :=
  let digits := c.rest.take width
  if digits.length < width then .error .malformed
  else
    match Text.Hex.toNat? 0 digits with
    | none => .error .malformed
    | some n => if 0x110000 ≤ n then .error (.codePoint n) else .ok n

def escape (fuel : Nat) (c : Cursor) : Except Trouble (List Nat × Cursor) :=
  match replacement? c.head with
  | some n => .ok ([n], c.step)
  | none =>
    match escapeWidth? c.head with
    | some width => do
      let n ← codePoint width c.step
      pure ([n], c.step.skip width)
    | none =>
      if isBreak c.head then breaks fuel c.lineBreak.2 else .error .malformed

def isOrdinary (c : Char) : Bool :=
  !(isGap c || c == '\'' || c == '"' || c == '\\')

def solid (double : Bool) : Nat → Cursor → Except Trouble (List Nat × Cursor)
  | 0, _ => .error .malformed
  | fuel + 1, c => do
    let run := (c.run isOrdinary).map Char.toNat
    let c := c.skip run.length
    let ch := c.head
    let (more, c) ←
      if !double && ch == '\'' && c.ahead 1 == '\'' then pure ([ch.toNat], c.skip 2)
      else if (double && ch == '\'') || (!double && (ch == '"' || ch == '\\')) then
        pure ([ch.toNat], c.step)
      else if double && ch == '\\' then do
        let (e, c) ← escape fuel c.step
        pure (e, c)
      else return (run, c)
    let (tail, c) ← solid double fuel c
    pure (run ++ more ++ tail, c)

def gap (fuel : Nat) (c : Cursor) : Except Trouble (List Nat × Cursor) := do
  let blanks := c.run fun ch => ch == ' ' || ch == '\t'
  let c := c.skip blanks.length
  if c.head == endMark then .error .unfinished
  else
    match c.lineBreak with
    | (none, c) => .ok (blanks.map Char.toNat, c)
    | (some b, c) => do
      let (bs, c) ← breaks fuel c
      if b != '\n' then pure (b.toNat :: bs, c)
      else if bs.isEmpty then pure ([0x20], c)
      else pure (bs, c)

def body (double : Bool) (quote : Char) : Nat → Cursor → Except Trouble (List Nat × Cursor)
  | 0, _ => .error .malformed
  | fuel + 1, c =>
    if c.head == quote then .ok ([], c.step)
    else do
      let (g, c) ← gap fuel c
      let (s, c) ← solid double fuel c
      let (tail, c) ← body double quote fuel c
      pure (g ++ s ++ tail, c)

def scan (double : Bool) (c : Cursor) : Except Trouble (String × Cursor) := do
  let fuel := 2 * c.left + 2
  let quote := c.head
  let (start, c) ← solid double fuel c.step
  let (tail, c) ← body double quote fuel c
  pure (String.ofList ((start ++ tail).map Text.Utf16.single), c)

end ClusterAccess.Yaml.Quoted
