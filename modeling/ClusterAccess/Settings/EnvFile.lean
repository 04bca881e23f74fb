import ClusterAccess.Text.Blank

/-!
# Files of environment variables

A file holds one binding per line: a name, an equals sign and a value, plain or quoted. A quoted
value may span lines and hold escapes. `bindings` reads a text, `interpolate` fills in references
to variables. A line that fits no form is dropped.
-/

namespace ClusterAccess.Settings.EnvFile

open Text (isBlank)

def isLineEnd (c : Char) : Bool := c == '\n' || c == '\r'

/-- A blank that is no line end. -/
def isInlineBlank (c : Char) : Bool := isBlank c && !isLineEnd c

def dropInlineBlanks (cs : List Char) : List Char := cs.dropWhile isInlineBlank

/-- The rest behind the word `export` and a blank, if a line starts with them. -/
def dropExport (cs : List Char) : List Char :=
  let word := "export".toList
  if word.isPrefixOf cs then
    let rest := cs.drop word.length
    if (rest.head?.map isInlineBlank).getD false then dropInlineBlanks rest else cs
  else cs

def quotedName? (cs : List Char) : Option (List Char × List Char) :=
  let name := cs.takeWhile (· != '\'')
  if name.isEmpty then none
  else
    match cs.drop name.length with
    | _ :: rest => some (name, rest)
    | [] => none

def isNameChar (c : Char) : Bool := !(c == '=' || c == '#' || isBlank c)

/-- A name at the front of a line; a comment has none. The error keeps what is left. -/
def name? : List Char → Except (List Char) (Option (List Char) × List Char)
  | '#' :: rest => .ok (none, '#' :: rest)
  | '\'' :: rest =>
    match quotedName? rest with
    | some (name, rest) => .ok (some name, rest)
    | none => .error ('\'' :: rest)
  | cs =>
    let name := cs.takeWhile isNameChar
    if name.isEmpty then .error cs else .ok (some name, cs.drop name.length)

/-- The length of a quoted text up to the first quote that no backslash takes; a backslash takes
the character behind it, whatever it is. -/
def closing? (quote : Char) : List Char → Option Nat
  | [] => none
  | ['\\'] => none
  | '\\' :: _ :: rest => (closing? quote rest).map (· + 2)
  | c :: rest => if c = quote then some 0 else (closing? quote rest).map (· + 1)

def doubleEscape? (c : Char) : Option Char :=
  match c with
  | '\\' => some '\\'
  | '\'' => some '\''
  | '"' => some '"'
  | 'a' => some '\x07'
  | 'b' => some '\x08'
  | 'f' => some '\x0c'
  | 'n' => some '\n'
  | 'r' => some '\r'
  | 't' => some '\t'
  | 'v' => some '\x0b'
  | _ => none

def singleEscape? (c : Char) : Option Char :=
  match c with
  | '\\' => some '\\'
  | '\'' => some '\''
  | _ => none

def unescape (known : Char → Option Char) : List Char → List Char
  | [] => []
  | ['\\'] => ['\\']
  | '\\' :: c :: rest =>
    match known c with
    | some e => e :: unescape known rest
    | none => '\\' :: unescape known (c :: rest)
  | c :: rest => c :: unescape known rest

def quotedValue? (quote : Char) (cs : List Char) : Option (List Char × List Char) :=
  let known := if quote = '"' then doubleEscape? else singleEscape?
  (closing? quote cs).map fun n =>
    (unescape known (cs.take n), cs.drop (n + 1))

def beforeComment : List Char → List Char
  | [] => []
  | c :: rest =>
    if isBlank c && (rest.dropWhile isBlank).head? == some '#' then []
    else c :: beforeComment rest

/-- A plain value at the front of a line, where `blankBefore` says whether a blank stands before
it; behind a blank, a comment sign at once leaves no value. -/
def plainValue (blankBefore : Bool) (line : List Char) : List Char :=
  if blankBefore && line.head? == some '#' then []
  else (beforeComment line).reverse.dropWhile isBlank |>.reverse

/-- A value behind the equals sign. The error keeps what is left. -/
def value? (behindSign : List Char) : Except (List Char) (List Char × List Char) :=
  let cs := dropInlineBlanks behindSign
  match cs with
  | [] => .ok ([], [])
  | c :: rest =>
    if c == '\'' || c == '"' then
      match quotedValue? c rest with
      | some r => .ok r
      | none => .error cs
    else if isLineEnd c then .ok ([], cs)
    else
      let line := cs.takeWhile fun c => !isLineEnd c
      .ok (plainValue (cs.length < behindSign.length) line, cs.drop line.length)

/-- What follows a line, which may end in a comment. The error keeps what is left. -/
def endOfLine (cs : List Char) : Except (List Char) (List Char) :=
  let cs :=
    match dropInlineBlanks cs with
    | '#' :: rest => rest.dropWhile fun c => !isLineEnd c
    | _ => cs
  match dropInlineBlanks cs with
  | [] => .ok []
  | '\r' :: '\n' :: rest => .ok rest
  | c :: rest => if isLineEnd c then .ok rest else .error cs

def binding? (cs : List Char) :
    Except (List Char) (Option (List Char × Option (List Char)) × List Char) := do
  let (name, rest) ← name? (dropExport cs)
  let (value, rest) ←
    match dropInlineBlanks rest with
    | '=' :: rest => do
      let (v, rest) ← value? rest
      pure (some v, rest)
    | rest => pure (none, rest)
  let rest ← endOfLine rest
  pure (name.map fun n => (n, value), rest)

def nextLine (cs : List Char) : List Char :=
  match cs.dropWhile fun c => !isLineEnd c with
  | '\r' :: '\n' :: rest => rest
  | _ :: rest => rest
  | [] => []

def bindingsUpTo : Nat → List Char → List (String × Option String)
  | 0, _ => []
  | fuel + 1, cs =>
    match cs.dropWhile isBlank with
    | [] => []
    | cs =>
      match binding? cs with
      | .error rest => bindingsUpTo fuel (nextLine rest)
      | .ok (none, rest) => bindingsUpTo fuel rest
      | .ok (some (n, v), rest) =>
        (String.ofList n, v.map String.ofList) :: bindingsUpTo fuel rest

/-- The bindings of a text in order; a name without an equals sign has no value. -/
def bindings (text : List Char) : List (String × Option String) :=
  bindingsUpTo (text.length + 1) text

/-- A reference behind its opening brace: the name and the default value. -/
def reference? (cs : List Char) : Option (List Char × List Char × List Char) :=
  let name := cs.takeWhile fun c => c != '\x7d' && c != ':'
  match cs.drop name.length with
  | '\x7d' :: rest => some (name, [], rest)
  | ':' :: '-' :: rest =>
    let default := rest.takeWhile (· != '\x7d')
    match rest.drop default.length with
    | '\x7d' :: rest => some (name, default, rest)
    | _ => none
  | _ => none

/-- Replace each reference by the value of its variable, or by its default. -/
def expand (value : String → Option String) : Nat → List Char → List Char
  | 0, cs => cs
  | _, [] => []
  | fuel + 1, '$' :: '\x7b' :: rest =>
    match reference? rest with
    | some (name, default, rest) =>
      ((value (String.ofList name)).getD (String.ofList default)).toList ++ expand value fuel rest
    | none => '$' :: expand value fuel ('\x7b' :: rest)
  | fuel + 1, c :: rest => c :: expand value fuel rest

/-- The value of a variable: that of an earlier binding, else that of the environment. A binding
without a value stands for an empty text. -/
def valueOf (environment : String → Option String) (before : List (String × Option String))
    (name : String) : Option String :=
  match before.lookup name with
  | some v => some (v.getD "")
  | none => environment name

/-- The entries with a name bound to a value: in the place of its earlier binding, else at the
end. -/
def bind (name : String) (v : Option String) :
    List (String × Option String) → List (String × Option String)
  | [] => [(name, v)]
  | e :: rest => if e.1 = name then (name, v) :: rest else e :: bind name v rest

/-- Fill in the references of each value; earlier bindings win over the environment. -/
def interpolate (environment : String → Option String) (before : List (String × Option String)) :
    List (String × Option String) → List (String × Option String)
  | [] => before
  | (name, v) :: rest =>
    let v := v.map fun s =>
      String.ofList (expand (valueOf environment before) (s.length + 1) s.toList)
    interpolate environment (bind name v before) rest

def assignments (environment : String → Option String) (text : List Char) :
    List (String × Option String) :=
  interpolate environment [] (bindings text)

end ClusterAccess.Settings.EnvFile
