import ClusterAccess.Call.Signature
import ClusterAccess.Document.Storage
import ClusterAccess.Fault.Basic
import ClusterAccess.Json.Obstacle
import ClusterAccess.Json.Writer
import ClusterAccess.Logging.Level
import ClusterAccess.Template.Error
import ClusterAccess.Text.Base64
import ClusterAccess.Validation.Issue
import ClusterAccess.World.Home

/-!
# Failures

Everything that can stop a resolution, as a cause. `message` is the text of each cause.
-/

namespace ClusterAccess

inductive ForeignKind
  | value
  | runtime
  | key
  | system
  | fileNotFound
  | general
  deriving DecidableEq, Repr

inductive ScalarError
  | notAnInteger (base : Nat) (text : String)
  | tooManyDigits (count : Nat)
  | notANumber (text : String)
  | integerTooLarge
  | tooLongToWrite
  | date (e : DateError)
  | notAMoment
  /-- A collection where the text of a moment is expected. -/
  | textRequired
  | notAWord (text : String)
  | emptyNumber
  | codePoint (n : Nat)
  deriving DecidableEq, Repr

namespace ScalarError

/-- The most characters of a quoted text that a message shows. -/
def shownLength : Nat := 200

def message : ScalarError → String
  | .notAnInteger base text =>
    "invalid literal for int() with base " ++ Number.natText base ++ ": " ++
      String.ofList ((Text.Quoted.ofString text).toList.take shownLength)
  | .tooManyDigits n =>
    "Exceeds the limit (4300 digits) for integer string conversion: value has " ++
      Number.natText n ++ " digits; use sys.set_int_max_str_digits() to increase the limit"
  | .notANumber text => "could not convert string to float: " ++ Text.Quoted.ofString text
  | .integerTooLarge => "int too large to convert to float"
  | .tooLongToWrite => Value.tooLongText
  | .date e => e.message
  | .textRequired => "expected string or bytes-like object, got 'list'"
  | .notAMoment => "'NoneType' object has no attribute 'groupdict'"
  | .notAWord text => Text.Quoted.ofString text
  | .emptyNumber => "string index out of range"
  | .codePoint n =>
    if n < 0x80000000 then "chr() arg not in range(0x110000)"
    else "Python int too large to convert to C int"

end ScalarError

inductive Failure
  | fault (f : FaultOf Failure)
  /-- Values that do not fit their fields. -/
  | invalid (issues : List Issue)
  | undecodable
  /-- A text with surrogates, which have no bytes: the first one, its place and the place behind
  those that follow it at once. -/
  | unencodable (surrogate start stop : Nat)
  | undumpable (o : Json.Obstacle)
  | file (e : FileError)
  /-- A path or an account name with a null character. -/
  | nullCharacter
  | homeUnknown
  | notAPath (found : Value)
  | foreignBase64
  | base64 (e : Text.Base64.Error)
  | malformed
  | scalar (e : ScalarError)
  | notAStrategy (word : String)
  | assignment (e : AssignmentError)
  /-- A change of the children of a finished configuration. -/
  | readOnlyChildren
  | notIterable (found : Value)
  /-- A value of the named type where something that can be hashed is expected. -/
  | unhashable (typeName : String)
  | notAnIndex (found : Value)
  | indexTooLarge
  | call (e : CallError)
  | template (e : TemplateError)
  | level (e : Logging.LevelError)
  | misuse (e : Misuse)
  /-- A log field under a name that every record has. -/
  | reservedField (name : String)
  /-- A map key of the named type, which cannot name a member of a JSON object. -/
  | badMemberName (typeName : String)
  | plugin (message : String)
  /-- A failure described from outside by its arguments. -/
  | foreign (kind : ForeignKind) (arguments : List Value)

abbrev Fault := FaultOf Failure

namespace Failure

def kindLabel : ForeignKind → String
  | .value => "ValueError"
  | .runtime => "RuntimeError"
  | .key => "KeyError"
  | .system => "OSError"
  | .fileNotFound => "FileNotFoundError"
  | .general => "Exception"

/-- Numbers of system failures that have a name of their own. -/
def systemLabels : List (Int × String) :=
  [(1, "PermissionError"), (2, "FileNotFoundError"), (3, "ProcessLookupError"),
    (4, "InterruptedError"), (10, "ChildProcessError"), (11, "BlockingIOError"),
    (13, "PermissionError"), (17, "FileExistsError"), (20, "NotADirectoryError"),
    (21, "IsADirectoryError"), (32, "BrokenPipeError"), (103, "ConnectionAbortedError"),
    (104, "ConnectionResetError"), (108, "BrokenPipeError"), (110, "TimeoutError"),
    (111, "ConnectionRefusedError"), (114, "BlockingIOError"), (115, "BlockingIOError")]

/-- The number of a system failure, which is written as an integer or as a truth value. -/
def systemNumber? : Value → Option Int
  | .float _ => none
  | v => v.asInt?

/-- The name of a failure described from outside: a system failure with a number and at most three
arguments after its text is named by the number. -/
def foreignLabel (kind : ForeignKind) (xs : List Value) : String :=
  match kind, xs with
  | .system, code :: _ :: rest =>
    if 3 < rest.length then kindLabel .system
    else
      match (systemNumber? code).bind fun n => systemLabels.lookup n with
      | some label => label
      | none => kindLabel .system
  | kind, _ => kindLabel kind

/-- What stands behind the number and the text of a blocked call, if it is a number: how much was
written before the call blocked. -/
def written? (kind : ForeignKind) (xs : List Value) : Option Value :=
  if foreignLabel kind xs = "BlockingIOError" then
    match xs with
    | _ :: _ :: v :: _ =>
      match v with
      | .int _ => some v
      | .bool _ => some v
      | .float _ => some v
      | _ => none
    | _ => none
  else none

def maxIndex : Int := Number.twoTo 63 - 1

/-- A failure described from outside; the amount written before a call blocked must be an index. -/
def ofForeign (kind : ForeignKind) (xs : List Value) : Except Failure Failure :=
  match written? kind xs with
  | some (.float x) => .error (.notAnIndex (.float x))
  | some (.int i) =>
    if maxIndex < i ∨ i < -maxIndex - 1 then .error .indexTooLarge else .ok (.foreign kind xs)
  | _ => .ok (.foreign kind xs)

def argumentsText (xs : List Value) : String :=
  match xs with
  | [] => ""
  | [x] => x.display
  | xs => (Value.tuple xs).quoted

def systemText (xs : List Value) : String :=
  match xs with
  | code :: text :: rest =>
    if 3 < rest.length then argumentsText xs
    else
      let start := "[Errno " ++ code.display ++ "] " ++ text.display
      match rest with
      | [] => start
      | name :: more =>
        match name, more with
        | .null, _ => start
        | name, [_, other] =>
          match other with
          | .null => start ++ ": " ++ name.quoted
          | other => start ++ ": " ++ name.quoted ++ " -> " ++ other.quoted
        | name, _ => start ++ ": " ++ name.quoted
  | xs => argumentsText xs

def foreignText (kind : ForeignKind) (xs : List Value) : String :=
  match kind, xs with
  | .key, [x] => x.quoted
  | .system, xs => systemText (if (written? .system xs).isSome then xs.take 2 else xs)
  | .fileNotFound, xs => systemText xs
  | _, xs => argumentsText xs

def notAPathText (v : Value) : String :=
  match v with
  | .bytes _ =>
    "argument should be a str object or an os.PathLike object returning str, not <class 'bytes'>"
  | v => "expected str, bytes or os.PathLike object, not " ++ v.typeName

def unencodableText (surrogate start stop : Nat) : String :=
  let which :=
    if stop = start + 1 then
      "character '" ++ String.ofList (Text.Quoted.escape surrogate) ++ "' in position " ++
        Number.natText start
    else "characters in position " ++ Number.natText start ++ "-" ++ Number.natText (stop - 1)
  "'utf-8' codec can't encode " ++ which ++ ": surrogates not allowed"

def obstacleText : Json.Obstacle → String
  | .surrogates n start stop => "UnicodeEncodeError: " ++ unencodableText n start stop
  | .tooDeep => "ValueError: Maximum serialization depth exceeded"

def message : Failure → String
  | .fault f => f.text
  | .invalid _ => "<ValidationError>"
  | .undecodable => "<UnicodeDecodeError>"
  | .unencodable n start stop => unencodableText n start stop
  | .undumpable o => "Error serializing to JSON: " ++ obstacleText o
  | .file e => e.message
  | .nullCharacter => "embedded null byte"
  | .homeUnknown => "Could not determine home directory."
  | .notAPath v => notAPathText v
  | .foreignBase64 => "string argument should contain only ASCII characters"
  | .base64 e => e.message
  | .malformed => "<YAMLError>"
  | .scalar e => e.message
  | .notAStrategy word => Text.Quoted.ofString word ++ " is not a valid UpdateStrategy"
  | .assignment e => e.message
  | .readOnlyChildren => "'mappingproxy' object does not support item assignment"
  | .notIterable v => "'" ++ v.typeName ++ "' object is not iterable"
  | .unhashable name => "unhashable type: '" ++ name ++ "'"
  | .notAnIndex v => "'" ++ v.typeName ++ "' object cannot be interpreted as an integer"
  | .indexTooLarge => "cannot fit 'int' into an index-sized integer"
  | .call e => e.message
  | .template e => e.message
  | .level e => e.message
  | .misuse e => e.message
  | .reservedField name =>
    Text.Quoted.ofString ("Attempt to overwrite " ++ Text.Quoted.ofString name ++ " in LogRecord")
  | .badMemberName name => "keys must be str, int, float, bool or None, not " ++ name
  | .plugin m => m
  | .foreign kind xs => foreignText kind xs

/-- A refused assignment; to a field it is an issue. -/
def ofAssignment : AssignmentError → Failure
  | .frozenField name => .invalid [{ kind := .frozenInstance, location := [.field name] }]
  | e => .assignment e

/-- The text of a value, which an integer may be too long for. -/
def textOf (v : Value) : Except Failure String :=
  if v.isShowable then .ok v.display else .error (.scalar .tooLongToWrite)

def checkSurrogates (refused : Nat → Bool) (s : String) : Except Failure Unit :=
  match Text.Utf8.surrogates? refused s.toList with
  | some (n, start, stop) => .error (.unencodable n start stop)
  | none => .ok ()

def bytesOf (s : String) : Except Failure (List UInt8) := do
  checkSurrogates (fun _ => true) s
  pure (Text.Utf8.ofString s)

def ofHome : HomeError → Failure
  | .unknown => .homeUnknown
  | .unencodable n start stop => .unencodable n start stop
  | .nul => .nullCharacter

def ofWriting : Json.WriteError → Failure
  | .badName name => .badMemberName name
  | .tooLong => .scalar .tooLongToWrite

def kubeconfig (message : String) (cause : Option Failure := none) : Failure :=
  .fault (FaultOf.kubeconfig (.str message) .null .null .null cause)

end Failure

/-! ### Paths that values name -/

def FilePath.ofValue : Value → Except Failure FilePath
  | .str s => .ok (FilePath.ofString s)
  | v => .error (.notAPath v)

/-- The path that a value names, with a leading tilde expanded. -/
def World.namedPath (w : World) (v : Value) : Except Failure FilePath := do
  (w.expandHome (← FilePath.ofValue v)).mapError Failure.ofHome

end ClusterAccess
