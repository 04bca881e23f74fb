import ClusterAccess.Number.Numeral
import ClusterAccess.Yaml.Cursor

/-!
# Block scalars

A literal scalar keeps its line ends, a folded one joins lines of equal indentation. An indicator
chooses what becomes of the line ends at the end: one is kept, all are kept, or none.
-/

namespace ClusterAccess.Yaml.Block

inductive Chomping
  | clip
  | keep
  | strip
  deriving DecidableEq, Repr

def chomping? (c : Char) : Option Chomping :=
  if c == '+' then some .keep else if c == '-' then some .strip else none

/-- The indentation that a digit asks for; zero is not allowed. -/
def increment (c : Cursor) : Except Trouble (Option Nat × Cursor) :=
  match Number.digitValue? c.head with
  | none => .ok (none, c)
  | some 0 => .error .malformed
  | some n => .ok (some n, c.step)

def header (c : Cursor) : Except Trouble (Chomping × Option Nat × Cursor) := do
  let (chomp, inc, c) ←
    match chomping? c.head with
    | some chomp => do
      let (inc, c) ← increment c.step
      pure (chomp, inc, c)
    | none => do
      let (inc, c) ← increment c
      match inc, chomping? c.head with
      | some _, some chomp => pure (chomp, inc, c.step)
      | _, _ => pure (Chomping.clip, inc, c)
  if isSpaceOrEnd c.head then pure (chomp, inc, c) else .error .malformed

def restOfLine (c : Cursor) : Except Trouble Cursor :=
  let c := c.skipSpaces.skipComment
  if isBreakOrEnd c.head then .ok c.lineBreak.2 else .error .malformed

/-- The blank lines at the start, and the widest indentation seen on the way. -/
def leading : Nat → Nat → Cursor → List Char × Nat × Cursor
  | 0, widest, c => ([], widest, c)
  | fuel + 1, widest, c =>
    let c := c.skipSpaces
    let widest := max widest c.column
    match c.lineBreak with
    | (none, c) => ([], widest, c)
    | (some b, c) =>
      let (bs, widest, c) := leading fuel widest c
      (b :: bs, widest, c)

def indentTo (indent : Nat) (c : Cursor) : Cursor :=
  c.skip (min (c.run (· == ' ')).length (indent - c.column))

def blankLines (indent : Nat) : Nat → Cursor → List Char × Cursor
  | 0, c => ([], c)
  | fuel + 1, c =>
    let c := indentTo indent c
    match c.lineBreak with
    | (none, c) => ([], c)
    | (some b, c) =>
      let (bs, c) := blankLines indent fuel c
      (b :: bs, c)

/-- The lines of a scalar: its text, the last line end, and the blank lines after it. -/
structure Lines where
  text : List Char
  last : List Char
  blank : List Char
  cursor : Cursor

def isIndentedMore (c : Char) : Bool := c == ' ' || c == '\t'

/-- Lines from the cursor on, which stands at the indentation; `blank` are the lines before. -/
def lines (folded : Bool) (indent : Nat) : Nat → List Char → List Char → Cursor → Lines
  | 0, last, blank, c => { text := [], last := last, blank := blank, cursor := c }
  | fuel + 1, last, blank, c =>
    if c.column != indent || c.head == endMark then
      { text := [], last := last, blank := blank, cursor := c }
    else
      let flush := !isIndentedMore c.head
      let content := c.run fun ch => !isBreakOrEnd ch
      let (b, after) := (c.skip content.length).lineBreak
      let newLast := b.toList
      let (newBlank, next) := blankLines indent (after.left + 1) after
      if next.column == indent && next.head != endMark then
        let glue :=
          if folded && newLast == ['\n'] && flush && !isIndentedMore next.head then
            if newBlank.isEmpty then [' '] else []
          else newLast
        let more := lines folded indent fuel newLast newBlank next
        { more with text := blank ++ content ++ glue ++ more.text }
      else { text := blank ++ content, last := newLast, blank := newBlank, cursor := next }

def scan (folded : Bool) (parent : Int) (c : Cursor) : Except Trouble (String × Cursor) := do
  let (chomp, inc, c) ← header c.step
  let c ← restOfLine c
  let least := (max 1 (parent + 1)).toNat
  let fuel := c.left + 1
  let (blank, indent, c) :=
    match inc with
    | none =>
      let (bs, widest, c) := leading fuel 0 c
      (bs, max least widest, c)
    | some n =>
      let indent := least + n - 1
      let (bs, c) := blankLines indent fuel c
      (bs, indent, c)
  let ls := lines folded indent fuel [] blank c
  let tail :=
    match chomp with
    | .clip => ls.last
    | .keep => ls.last ++ ls.blank
    | .strip => []
  pure (String.ofList (ls.text ++ tail), ls.cursor)

end ClusterAccess.Yaml.Block
