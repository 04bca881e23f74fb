import ClusterAccess.Yaml.Cursor

/-!
# Plain scalars

A plain scalar goes on over blanks and line ends as long as the next line is indented deep enough
and starts neither a comment nor a document separator.
-/

namespace ClusterAccess.Yaml.Plain

def isFlowIndicator (c : Char) : Bool :=
  c == ',' || c == '?' || c == '[' || c == ']' || c == '\x7b' || c == '\x7d'

/-- What must follow a colon that ends a plain scalar. -/
def endsKey (inFlow : Bool) (c : Char) : Bool :=
  isGap c || (inFlow && isFlowIndicator c && c != '?')

def solidLength (inFlow : Bool) : List Char → Nat
  | [] => 0
  | c :: rest =>
    if isGap c || (c == ':' && endsKey inFlow (rest.headD endMark)) ||
        (inFlow && isFlowIndicator c) then 0
    else solidLength inFlow rest + 1

/-- The result of looking for the next solid part: the characters that join the two parts, none if
the scalar ends here, the cursor, and whether a line end was crossed. -/
structure Joint where
  text : List Char
  cursor : Cursor
  crossed : Bool

/-- Blank lines and indentation behind a line end; none at a document separator. -/
def lineEnds : Nat → Cursor → Option (List Char) × Cursor
  | 0, c => (some [], c)
  | fuel + 1, c =>
    let c := c.skipSpaces
    match c.lineBreak with
    | (none, c) => (some [], c)
    | (some b, c) =>
      if c.atSeparator then (none, c)
      else
        match lineEnds fuel c with
        | (none, c) => (none, c)
        | (some bs, c) => (some (b :: bs), c)

def joint (c : Cursor) : Joint :=
  let blanks := c.run (· == ' ')
  let c := c.skip blanks.length
  match c.lineBreak with
  | (none, c) => { text := blanks, cursor := c, crossed := false }
  | (some b, c) =>
    if c.atSeparator then { text := [], cursor := c, crossed := true }
    else
      match lineEnds (c.left + 1) c with
      | (none, c) => { text := [], cursor := c, crossed := true }
      | (some bs, c) =>
        let text := if b != '\n' then b :: bs else if bs.isEmpty then [' '] else bs
        { text := text, cursor := c, crossed := true }

/-- A plain scalar, the cursor behind it, and whether the last thing read was a line end. -/
structure Scanned where
  text : List Char
  cursor : Cursor
  crossed : Bool

/-- Read on after `text`, which `before` joins to the next part. -/
def scanFrom (inFlow : Bool) (indent : Int) : Nat → List Char → Joint → Scanned
  | 0, text, j => { text := text, cursor := j.cursor, crossed := j.crossed }
  | fuel + 1, text, j =>
    let c := j.cursor
    let n := solidLength inFlow c.rest
    if c.head == '#' || n = 0 then { text := text, cursor := c, crossed := j.crossed }
    else
      let text := text ++ j.text ++ c.rest.take n
      let j := joint (c.skip n)
      if j.text.isEmpty || j.cursor.head == '#' ||
          (!inFlow && (j.cursor.column : Int) < indent) then
        { text := text, cursor := j.cursor, crossed := j.crossed }
      else scanFrom inFlow indent fuel text j

def scan (inFlow : Bool) (indent : Int) (c : Cursor) : Scanned :=
  scanFrom inFlow indent (c.left + 1) [] { text := [], cursor := c, crossed := false }

end ClusterAccess.Yaml.Plain
