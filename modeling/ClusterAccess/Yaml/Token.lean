import ClusterAccess.Text.Hex
import ClusterAccess.Text.Utf8
import ClusterAccess.Number.Numeral
import ClusterAccess.Yaml.Cursor

/-!
# Tokens, and those with a name

The tokens of a YAML text, and the scanners of directives, anchors, references to anchors and tags.
-/

namespace ClusterAccess.Yaml

inductive Token
  /-- A version directive with its major number. -/
  | version (major : Nat)
  /-- A directive that gives a tag handle its meaning. -/
  | handle (name meaning : String)
  | directive
  | documentStart
  | documentEnd
  | sequenceStart
  | mappingStart
  | blockEnd
  | flowSequenceStart
  | flowSequenceEnd
  | flowMappingStart
  | flowMappingEnd
  | entry
  | flowEntry
  | key
  | value
  | link (name : String)
  | anchor (name : String)
  | tag (handle : Option String) (suffix : String)
  | scalar (text : String) (plain : Bool)
  | streamEnd
  | broken (t : Trouble)
  deriving DecidableEq, Repr

def isNameChar (c : Char) : Bool :=
  let n := c.toNat
  (48 ≤ n && n ≤ 57) || (65 ≤ n && n ≤ 90) || (97 ≤ n && n ≤ 122) || c == '-' || c == '_'

def scanName (c : Cursor) : Except Trouble (String × Cursor) :=
  let name := c.run isNameChar
  if name.isEmpty then .error .malformed else .ok (String.ofList name, c.skip name.length)

def scanAnchorName (c : Cursor) : Except Trouble (String × Cursor) := do
  let (name, c) ← scanName c.step
  let ch := c.head
  if isGap ch || ['?', ':', ',', ']', '\x7d', '%', '@', '\x60'].contains ch then pure (name, c)
  else .error .malformed

def addressMarks : List Char :=
  ['-', ';', '/', '?', ':', '@', '&', '=', '+', '$', ',', '_', '.', '!', '~', '*', '\'', '(', ')',
    '[', ']']

def isAddressChar (c : Char) : Bool :=
  isNameChar c || addressMarks.contains c

def scanEscapes : Nat → Cursor → Except Trouble (List UInt8 × Cursor)
  | 0, _ => .error .malformed
  | fuel + 1, c =>
    if c.head != '%' then .ok ([], c)
    else
      match Text.Hex.value? (c.ahead 1), Text.Hex.value? (c.ahead 2) with
      | some a, some b => do
        let (bs, c) ← scanEscapes fuel (c.skip 3)
        pure ((a * 16 + b).toUInt8 :: bs, c)
      | _, _ => .error .malformed

def scanAddressFrom : Nat → Cursor → Except Trouble (List Char × Cursor)
  | 0, _ => .error .malformed
  | fuel + 1, c => do
    let run := c.run isAddressChar
    let c := c.skip run.length
    if c.head == '%' then
      let (bytes, c) ← scanEscapes (c.left + 1) c
      match Text.Utf8.decode bytes with
      | none => .error .malformed
      | some cs =>
        let (tail, c) ← scanAddressFrom fuel c
        pure (run ++ cs ++ tail, c)
    else pure (run, c)

def scanAddress (c : Cursor) : Except Trouble (String × Cursor) :=
  if isAddressChar c.head || c.head == '%' then do
    let (cs, c) ← scanAddressFrom (c.left + 1) c
    pure (String.ofList cs, c)
  else .error .malformed

/-- A tag handle: an exclamation mark, alone or with a name and a second mark. -/
def scanHandle (c : Cursor) : Except Trouble (String × Cursor) :=
  if c.head != '!' then .error .malformed
  else if c.ahead 1 == ' ' then .ok ("!", c.step)
  else
    let name := c.step.run isNameChar
    let after := c.step.skip name.length
    if after.head == '!' then .ok (String.ofList ('!' :: name ++ ['!']), after.step)
    else .error .malformed

/-- Whether another exclamation mark stands before the next blank. -/
def hasSecondMark (c : Cursor) : Bool :=
  (c.step.run fun ch => !isSpaceOrEnd ch).contains '!'

def scanTag (c : Cursor) : Except Trouble (Token × Cursor) := do
  let next := c.ahead 1
  let (t, c) ←
    if next == '<' then do
      let (suffix, c) ← scanAddress (c.skip 2)
      if c.head == '>' then pure (Token.tag none suffix, c.step) else .error .malformed
    else if isGap next then pure (Token.tag none "!", c.step)
    else do
      let (handle, c) ← if hasSecondMark c then scanHandle c else pure ("!", c.step)
      let (suffix, c) ← scanAddress c
      pure (Token.tag (some handle) suffix, c)
  if isSpaceOrEnd c.head then pure (t, c) else .error .malformed

def maxVersionDigits : Nat := 4300

def scanVersionNumber (c : Cursor) : Except Trouble (Nat × Cursor) :=
  let digits := c.run Number.isDigit
  if maxVersionDigits < digits.length then .error (.tooManyDigits digits.length)
  else
    match Number.nat? 10 digits with
    | some n => .ok (n, c.skip digits.length)
    | none => .error .malformed

def scanVersion (c : Cursor) : Except Trouble (Token × Cursor) := do
  let (major, c) ← scanVersionNumber c.skipSpaces
  if c.head != '.' then .error .malformed
  else
    let (_, c) ← scanVersionNumber c.step
    if isSpaceOrEnd c.head then pure (.version major, c) else .error .malformed

def scanHandleDefinition (c : Cursor) : Except Trouble (Token × Cursor) := do
  let (name, c) ← scanHandle c.skipSpaces
  if c.head != ' ' then .error .malformed
  else
    let (meaning, c) ← scanAddress c.skipSpaces
    if isSpaceOrEnd c.head then pure (.handle name meaning, c) else .error .malformed

def scanDirective (c : Cursor) : Except Trouble (Token × Cursor) := do
  let (name, c) ← scanName c.step
  if !isSpaceOrEnd c.head then .error .malformed
  else
    let (t, c) ←
      if name == "YAML" then scanVersion c
      else if name == "TAG" then scanHandleDefinition c
      else pure (Token.directive, c.skipWhile fun ch => !isBreakOrEnd ch)
    let c := c.skipSpaces.skipComment
    if isBreakOrEnd c.head then pure (t, c.lineBreak.2) else .error .malformed

end ClusterAccess.Yaml
