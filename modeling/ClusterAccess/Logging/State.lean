import ClusterAccess.Logging.Event

/-!
# The state of logging

The level of a process, its handlers, and levels for loggers of other libraries. Setting up logging
replaces all handlers by one, then sets the levels, so nothing of an earlier state is left; a level
that is none stops it after the handlers were replaced.
-/

namespace ClusterAccess.Logging

inductive LineFormat
  | structured
  | plain
  deriving DecidableEq, Repr

structure State where
  level : Int := warning
  /-- The handlers; one without a format writes nothing. -/
  handlers : List (Option LineFormat) := []
  /-- Levels of other libraries by the names of their loggers; zero for none. -/
  libraries : List (String × Int) := [("kopf", 0), ("kubernetes", 0), ("urllib3", 0)]
  deriving DecidableEq, Repr

def setupSignature : Signature :=
  { function := "setup_structured_logging"
    required := []
    optional := ["log_level", "enable_json_formatting"] }

def rootName : String := "root"

/-- Attributes that every record has and an event cannot set. -/
def reservedFields : List String :=
  ["name", "msg", "args", "levelname", "levelno", "pathname", "filename", "module", "exc_info",
    "exc_text", "stack_info", "lineno", "funcName", "created", "msecs", "relativeCreated",
    "thread", "threadName", "processName", "process", "message", "asctime"]

/-- Libraries whose loggers have a handler of their own, which writes nothing. -/
def silentLibraries : List String :=
  ["urllib3", "requests", "oauthlib", "requests_oauthlib", "charset_normalizer", "websocket"]

namespace State

/-- Replace all handlers by one, then set all levels. -/
def setup (s : State) (levelName structured : Value) : State × Except Failure Unit :=
  let format := if structured.truthy then LineFormat.structured else LineFormat.plain
  let s := { s with handlers := [some format] }
  match levelOf levelName with
  | .error e => (s, .error (.level e))
  | .ok level =>
    ({ s with
        level := level
        libraries := s.libraries.map fun l => (l.1, warning) },
      .ok ())

def setupWith (s : State) (positional : List Value) (named : List (String × Value)) :
    State × Except Failure Unit :=
  match setupSignature.bind positional named with
  | .error e => (s, .error (.call e))
  | .ok bound =>
    s.setup ((bound.lookup "log_level").getD (.str "INFO"))
      ((bound.lookup "enable_json_formatting").getD (.bool true))

def addSilentHandler (s : State) : State :=
  { s with handlers := s.handlers ++ [none] }

def isBelow (name logger : String) : Bool :=
  logger == name || (name ++ ".").toList.isPrefixOf logger.toList

def threshold (s : State) (logger : String) : Int :=
  match s.libraries.find? fun l => isBelow l.1 logger && l.2 != 0 with
  | some l => l.2
  | none => s.level

/-- Whether events of a level pass a logger. Levels up to zero never do. -/
def isEnabled (s : State) (logger : String) (level : Int) : Bool :=
  0 < level && s.threshold logger ≤ level

def levelNumber (e : Event) : Except Failure Int :=
  match e.level with
  | .int i => .ok i
  | .bool b => .ok (if b then 1 else 0)
  | _ => .error (.level .notAnInteger)

/-- A line of a handler; an event that cannot be written leaves none. -/
def lineFor (e : Event) (time : String) : Option LineFormat → String
  | none => ""
  | some format =>
    let line := match format with
      | .structured => e.structuredLine time
      | .plain => e.plainLine time
    match line with
    | .ok s => s ++ "\n"
    | .error _ => ""

def isSilent (logger : String) : Bool :=
  silentLibraries.any fun name => isBelow name logger

/-- What an event writes. Without any handler the message of a warning or worse is written. -/
def output (s : State) (e : Event) (level : Int) (time : String) : String :=
  if s.handlers.isEmpty then
    if warning ≤ level && !isSilent e.logger then
      match e.bareLine with
      | .ok line => line ++ "\n"
      | .error _ => ""
    else ""
  else String.join (s.handlers.map (lineFor e time))

def reserved? (e : Event) : Option String :=
  e.attributes.entries.findSome? fun a =>
    match a.1 with
    | .str name => if reservedFields.contains name then some name else none
    | _ => none

/-- Log an event: what is written, or why the event is refused. -/
def log (s : State) (e : Event) (time : String) : Except Failure String := do
  let e := if e.logger = "" then { e with logger := rootName } else e
  let level ← levelNumber e
  if !s.isEnabled e.logger level then pure ""
  else
    let _ ← e.arguments.values?
    match reserved? e with
    | some name => .error (.reservedField name)
    | none => pure (s.output e level time)

/-! ### Sessions -/

inductive Action
  | setup (positional : List Value) (named : List (String × Value))
  | addSilentHandler
  | log (e : Event) (time : String)

/-- One action, and what it writes. An event changes nothing, written or refused. -/
def step (s : State) : Action → State × Except Failure String
  | .setup positional named =>
    let (s, result) := s.setupWith positional named
    (s, result.map fun _ => "")
  | .addSilentHandler => (s.addSilentHandler, .ok "")
  | .log e time => (s, s.log e time)

def run (s : State) (actions : List Action) : State :=
  actions.foldl (fun s a => (s.step a).1) s

end State
end ClusterAccess.Logging
