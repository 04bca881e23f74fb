import ClusterAccess.Yaml.Scalar.Block
import ClusterAccess.Yaml.Scalar.Plain
import ClusterAccess.Yaml.Scalar.Quoted
import ClusterAccess.Yaml.Source
import ClusterAccess.Yaml.Token

/-!
# Token streams

`tokens` turns a text into its tokens. Indentation opens and closes block collections. A token that
may turn out to be the key of a mapping is remembered; when a colon follows on the same line, a key
token is inserted before it.

Scanning goes on only as far as tokens are asked for. A token that may still turn out to be a key is
not handed out, so scanning goes on behind it first; where scanning fails, these tokens are never
handed out.
-/

namespace ClusterAccess.Yaml

/-- A token that may be a key: its number in the stream, its place, and whether it must be one. -/
structure Candidate where
  number : Nat
  required : Bool
  left : Nat
  line : Nat
  column : Nat

structure Scanner where
  cursor : Cursor
  depth : Nat := 0
  /-- The tokens so far, the newest first, and their number. -/
  tokens : List Token := []
  count : Nat := 0
  indent : Int := -1
  indents : List Int := []
  keyAllowed : Bool := true
  /-- At most one candidate for each depth. -/
  candidates : List (Nat × Candidate) := []

namespace Scanner

def push (s : Scanner) (t : Token) : Scanner :=
  { s with tokens := t :: s.tokens, count := s.count + 1 }

/-- Put a token in front of the token with the given number. -/
def insert (s : Scanner) (n : Nat) (t : Token) : Scanner :=
  { s with tokens := s.tokens.insertIdx (s.count - n) t, count := s.count + 1 }

def inFlow (s : Scanner) : Bool := s.depth != 0

/-- Blanks, comments and line ends before the next token. A line end allows keys again. -/
def skipGap : Nat → Bool → Cursor → Bool × Cursor
  | 0, crossed, c => (crossed, c)
  | fuel + 1, crossed, c =>
    match c.skipSpaces.skipComment.lineBreak with
    | (some _, c) => skipGap fuel true c
    | (none, c) => (crossed, c)

def toNextToken (s : Scanner) : Scanner :=
  let start :=
    if s.tokens.isEmpty && s.cursor.head == byteOrderMark then s.cursor.step else s.cursor
  let (crossed, c) := skipGap (start.left + 1) false start
  { s with cursor := c, keyAllowed := s.keyAllowed || (crossed && !s.inFlow) }

/-- A candidate is stale on a later line or more than 1024 characters on. -/
def isStale (s : Scanner) (k : Candidate) : Bool :=
  k.line != s.cursor.line || 1024 < k.left - s.cursor.left

/-- Forget stale candidates; one that had to be a key is an error. -/
def dropStale (s : Scanner) : Except Trouble Scanner :=
  if s.candidates.any fun k => s.isStale k.2 && k.2.required then .error .malformed
  else .ok { s with candidates := s.candidates.filter fun k => !s.isStale k.2 }

/-- Close the block collections that are indented deeper than a column. -/
def unwindTo (column : Int) : List Int → Scanner → Scanner
  | [], s => s
  | outer :: rest, s =>
    if column < s.indent then
      unwindTo column rest { (s.push .blockEnd) with indent := outer, indents := rest }
    else s

def unwind (s : Scanner) (column : Int) : Scanner :=
  if s.inFlow then s else unwindTo column s.indents s

def open? (s : Scanner) (column : Nat) : Option Scanner :=
  if s.indent < column then some { s with indent := column, indents := s.indent :: s.indents }
  else none

def candidate? (s : Scanner) : Option Candidate := s.candidates.lookup s.depth

def forget (s : Scanner) : Scanner :=
  { s with candidates := s.candidates.filter fun k => k.1 != s.depth }

/-- Forget the candidate of the current depth; one that had to be a key is an error. -/
def dropCandidate (s : Scanner) : Except Trouble Scanner :=
  match s.candidate? with
  | some k => if k.required then .error .malformed else .ok s.forget
  | none => .ok s

def saveCandidate (s : Scanner) : Except Trouble Scanner :=
  if s.keyAllowed then do
    let c := s.cursor
    let k : Candidate :=
      { number := s.count, required := !s.inFlow && s.indent == (c.column : Int)
        left := c.left, line := c.line, column := c.column }
    let s ← s.dropCandidate
    pure { s with candidates := (s.depth, k) :: s.candidates }
  else .ok s

def take (s : Scanner) (n : Nat) (t : Token) : Scanner :=
  { (s.push t) with cursor := s.cursor.skip n }

def streamEnd (s : Scanner) : Except Trouble Scanner := do
  let s ← (s.unwind (-1)).dropCandidate
  pure (s.push .streamEnd)

def directive (s : Scanner) : Except Trouble Scanner := do
  let s ← (s.unwind (-1)).dropCandidate
  let (t, c) ← scanDirective s.cursor
  pure { (s.push t) with cursor := c, keyAllowed := false }

def documentMark (s : Scanner) (t : Token) : Except Trouble Scanner := do
  let s ← (s.unwind (-1)).dropCandidate
  pure (({ s with keyAllowed := false } : Scanner).take 3 t)

def flowStart (s : Scanner) (t : Token) : Except Trouble Scanner := do
  let s ← s.saveCandidate
  pure (({ s with depth := s.depth + 1, keyAllowed := true } : Scanner).take 1 t)

def flowEnd (s : Scanner) (t : Token) : Except Trouble Scanner := do
  let s ← s.dropCandidate
  pure (({ s with depth := s.depth - 1, keyAllowed := false } : Scanner).take 1 t)

def flowEntry (s : Scanner) : Except Trouble Scanner := do
  let s ← ({ s with keyAllowed := true } : Scanner).dropCandidate
  pure (s.take 1 .flowEntry)

/-- Outside flow collections an indicator may open a collection, where keys are allowed. -/
def openFor (s : Scanner) (t : Token) : Except Trouble Scanner :=
  if s.inFlow then .ok s
  else if !s.keyAllowed then .error .malformed
  else
    match s.open? s.cursor.column with
    | some s => .ok (s.push t)
    | none => .ok s

def blockEntry (s : Scanner) : Except Trouble Scanner := do
  let s ← s.openFor .sequenceStart
  let s ← ({ s with keyAllowed := true } : Scanner).dropCandidate
  pure (s.take 1 .entry)

def key (s : Scanner) : Except Trouble Scanner := do
  let s ← s.openFor .mappingStart
  let s ← ({ s with keyAllowed := !s.inFlow } : Scanner).dropCandidate
  pure (s.take 1 .key)

def value (s : Scanner) : Except Trouble Scanner :=
  match s.candidate? with
  | some k =>
    let s := s.forget.insert k.number .key
    let s :=
      if s.inFlow then s
      else
        match s.open? k.column with
        | some s => s.insert k.number .mappingStart
        | none => s
    .ok (({ s with keyAllowed := false } : Scanner).take 1 .value)
  | none => do
    let s ← s.openFor .mappingStart
    pure (({ s with keyAllowed := !s.inFlow } : Scanner).take 1 .value)

/-- A token that may be a key and behind which no key starts. -/
def leaf (s : Scanner) (scan : Cursor → Except Trouble (Token × Cursor)) :
    Except Trouble Scanner := do
  let s ← s.saveCandidate
  let (t, c) ← scan s.cursor
  pure { (s.push t) with cursor := c, keyAllowed := false }

def blockScalar (s : Scanner) (folded : Bool) : Except Trouble Scanner := do
  let s ← ({ s with keyAllowed := true } : Scanner).dropCandidate
  let (text, c) ← Block.scan folded s.indent s.cursor
  pure { (s.push (.scalar text false)) with cursor := c }

def quotedScalar (s : Scanner) (double : Bool) : Except Trouble Scanner :=
  s.leaf fun c => do
    let (text, c) ← Quoted.scan double c
    pure (.scalar text false, c)

def plainScalar (s : Scanner) : Except Trouble Scanner := do
  let s ← s.saveCandidate
  let r := Plain.scan s.inFlow (s.indent + 1) s.cursor
  pure { (s.push (.scalar (String.ofList r.text) true)) with
    cursor := r.cursor, keyAllowed := r.crossed }

def isIndicator (c : Char) : Bool :=
  ['-', '?', ':', ',', '[', ']', '\x7b', '\x7d', '#', '&', '*', '!', '|', '>', '\'', '"', '%', '@',
    '\x60'].contains c

def startsPlain (s : Scanner) : Bool :=
  let ch := s.cursor.head
  !(isGap ch || isIndicator ch) ||
    (!isGap (s.cursor.ahead 1) && (ch == '-' || (!s.inFlow && (ch == '?' || ch == ':'))))

def next (s : Scanner) : Except Trouble Scanner := do
  let s ← s.toNextToken.dropStale
  let s := s.unwind s.cursor.column
  let c := s.cursor
  let ch := c.head
  let gapAhead := isGap (c.ahead 1)
  let atLineStart := c.column == 0
  if ch == endMark then s.streamEnd
  else if ch == '%' && atLineStart then s.directive
  else if ch == '-' && atLineStart && c.atSeparator then s.documentMark .documentStart
  else if ch == '.' && atLineStart && c.atSeparator then s.documentMark .documentEnd
  else if ch == '[' then s.flowStart .flowSequenceStart
  else if ch == '\x7b' then s.flowStart .flowMappingStart
  else if ch == ']' then s.flowEnd .flowSequenceEnd
  else if ch == '\x7d' then s.flowEnd .flowMappingEnd
  else if ch == ',' then s.flowEntry
  else if ch == '-' && gapAhead then s.blockEntry
  else if ch == '?' && (s.inFlow || gapAhead) then s.key
  else if ch == ':' && (s.inFlow || gapAhead) then s.value
  else if ch == '*' then
    s.leaf fun c => (scanAnchorName c).map fun r => (.link r.1, r.2)
  else if ch == '&' then
    s.leaf fun c => (scanAnchorName c).map fun r => (.anchor r.1, r.2)
  else if ch == '!' then s.leaf scanTag
  else if ch == '|' && !s.inFlow then s.blockScalar false
  else if ch == '>' && !s.inFlow then s.blockScalar true
  else if ch == '\'' then s.quotedScalar false
  else if ch == '"' then s.quotedScalar true
  else if s.startsPlain then s.plainScalar
  else .error .malformed

/-- The tokens that can be handed out, and then the trouble. -/
def stop (s : Scanner) (t : Trouble) : List Token :=
  let candidates := s.candidates.filter fun k => !s.isStale k.2
  let count := candidates.foldl (fun n k => min n k.2.number) s.count
  (Token.broken t :: s.tokens.drop (s.count - count)).reverse

/-- The tokens at the end of the text or where a step failed; otherwise `onward` goes on behind the
step. A step that needs more than the text fails with the fault behind it, if there is one. -/
def after (s : Scanner) (fault : Option Trouble) (onward : Scanner → List Token) :
    Except Trouble Scanner → List Token
  | .error .unfinished => s.stop (fault.getD .unfinished)
  | .error t => s.stop t
  | .ok next =>
    match fault with
    | some t => if next.cursor.rest.isEmpty then s.stop t else onward next
    | none =>
      if next.tokens.head? == some .streamEnd then next.tokens.reverse else onward next

/-- Tokens up to the end of the text or to the place where scanning fails. -/
def finish (fault : Option Trouble) : Nat → Scanner → List Token
  | 0, s => s.tokens.reverse
  | fuel + 1, s => s.after fault (finish fault fuel) s.next

end Scanner

def tokens (s : Source) : List Token :=
  Scanner.finish s.fault (s.text.length + 2) { cursor := { rest := s.text } }

end ClusterAccess.Yaml
