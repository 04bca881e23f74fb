/-!
# Positions in a YAML text

A cursor holds what is left of the text and where it stands. The end of the text is seen as a null
character, which no readable text contains. Lines end at LF, NEL, LS and PS. The number of
characters left bounds every scan, so the cursor keeps it.
-/

namespace ClusterAccess.Yaml

def endMark : Char := '\x00'

def isBreak (c : Char) : Bool :=
  c == '\n' || c == '\r' || c == '\u0085' || c == '\u2028' || c == '\u2029'

def isBreakOrEnd (c : Char) : Bool :=
  isBreak c || c == endMark

def isSpaceOrEnd (c : Char) : Bool :=
  isBreakOrEnd c || c == ' '

def isGap (c : Char) : Bool :=
  isSpaceOrEnd c || c == '\t'

/-- The byte order mark takes no column. -/
def byteOrderMark : Char := '\ufeff'

structure Cursor where
  rest : List Char
  line : Nat := 0
  column : Nat := 0
  left : Nat := rest.length
  left_eq : left = rest.length := by rfl

namespace Cursor

def head (c : Cursor) : Char := c.rest.headD endMark

def ahead (c : Cursor) (n : Nat) : Char := (c.rest.drop n).headD endMark

def step (c : Cursor) : Cursor :=
  match h : c.rest with
  | [] => c
  | ch :: rest =>
    have fewer : c.left - 1 = rest.length := by simp [c.left_eq, h]
    if isBreak ch then
      { rest := rest, line := c.line + 1, column := 0, left := c.left - 1, left_eq := fewer }
    else
      { rest := rest, line := c.line, left := c.left - 1, left_eq := fewer
        column := if ch == byteOrderMark then c.column else c.column + 1 }

def skip (c : Cursor) : Nat → Cursor
  | 0 => c
  | n + 1 => c.step.skip n

def run (c : Cursor) (p : Char → Bool) : List Char := c.rest.takeWhile p

def skipWhile (c : Cursor) (p : Char → Bool) : Cursor := c.skip (c.run p).length

def skipSpaces (c : Cursor) : Cursor := c.skipWhile (· == ' ')

def skipComment (c : Cursor) : Cursor :=
  if c.head == '#' then c.skipWhile fun ch => !isBreakOrEnd ch else c

/-- A line end at the cursor: the character it counts as, and the cursor behind it. -/
def lineBreak (c : Cursor) : Option Char × Cursor :=
  let ch := c.head
  if ch == '\u2028' || ch == '\u2029' then (some ch, c.step)
  else if isBreak ch then (some '\n', c.step)
  else (none, c)

/-- Three dashes or three dots, and a gap behind them. -/
def atSeparator (c : Cursor) : Bool :=
  let start := c.rest.take 3
  (start == ['-', '-', '-'] || start == ['.', '.', '.']) && isGap (c.ahead 3)

end Cursor

inductive Trouble
  | malformed
  | unfinished
  | codePoint (n : Nat)
  | tooManyDigits (count : Nat)
  | undecodable
  deriving DecidableEq, Repr

end ClusterAccess.Yaml
