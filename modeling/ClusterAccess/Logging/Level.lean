import ClusterAccess.Document.Display
import ClusterAccess.Text.LetterCase

/-!
# Log levels and records

Levels are numbers, and the usual ones have names. A level is looked up by its name in any letter
case; an unknown name counts as `info`. Two names of the same table stand for something else than a
level and are refused. A record names its level, its logger, its message and the structured fields
attached to it.
-/

namespace ClusterAccess.Logging

def debug : Int := 10
def info : Int := 20
def warning : Int := 30
def error : Int := 40
def critical : Int := 50

def usualNames : List (Int × String) :=
  [(critical, "CRITICAL"), (error, "ERROR"), (warning, "WARNING"), (info, "INFO"),
    (debug, "DEBUG"), (0, "NOTSET")]

/-- The name of a level; a level between the named ones is called by its number. -/
def levelName (level : Value) : String :=
  match level.asInt?.bind fun n => usualNames.lookup n with
  | some name => name
  | none => "Level " ++ level.display

def levelsByName : List (String × Int) :=
  [("CRITICAL", critical), ("FATAL", critical), ("ERROR", error), ("WARNING", warning),
    ("WARN", warning), ("INFO", info), ("DEBUG", debug), ("NOTSET", 0)]

inductive LevelError
  /-- A value that is no text has no upper case. -/
  | notAText (found : Value)
  | unknownName (text : String)
  | notALevel (shown : String)
  /-- An event whose level is no integer. -/
  | notAnInteger
  deriving Repr

def LevelError.message : LevelError → String
  | .notAText v => "'" ++ v.typeName ++ "' object has no attribute 'upper'"
  | .unknownName text => "Unknown level: " ++ Text.Quoted.ofString text
  | .notALevel shown => "Level not an integer or a valid string: " ++ shown
  | .notAnInteger => "level must be an integer"

/-- The default layout of lines, which stands among the names of levels. -/
def basicLayout : String := "%(levelname)s:%(name)s:%(message)s"

/-- The table of layout styles, which stands among the names of levels. -/
def shownStyles : String :=
  "\x7b'%': (<class 'logging.PercentStyle'>, '" ++ basicLayout ++ "'), " ++
    "'\x7b': (<class 'logging.StrFormatStyle'>, " ++
    "'\x7blevelname\x7d:\x7bname\x7d:\x7bmessage\x7d'), " ++
    "'$': (<class 'logging.StringTemplateStyle'>, " ++
    "'$\x7blevelname\x7d:$\x7bname\x7d:$\x7bmessage\x7d')\x7d"

def levelNamed (name : String) : Except LevelError Int :=
  if name = "BASIC_FORMAT" then .error (.unknownName basicLayout)
  else if name = "_STYLES" then .error (.notALevel shownStyles)
  else .ok ((levelsByName.lookup name).getD info)

/-- The level that a value names, in any letter case. -/
def levelOf : Value → Except LevelError Int
  | .str s =>
    match Text.upperAscii? s with
    | some name => levelNamed name
    | none => .ok info
  | v => .error (.notAText v)

/-! ### Records -/

/-- The fields that a structured log line carries when a record has them, in their order. -/
def structuredFields : List String :=
  ["operator_name", "namespace", "resource_type", "api_server", "auth_method", "kubeconfig_path",
    "context", "operation", "error_type"]

structure Record where
  level : Int
  logger : String
  message : String
  fields : List (String × Value) := []
  deriving Repr

end ClusterAccess.Logging
