import ClusterAccess.Document.Misuse
import ClusterAccess.Fault.Report
import ClusterAccess.Json.Writer
import ClusterAccess.Template.Fill

/-!
# Log events and their lines

An event is what a program logs: a message with values to fill in, perhaps a failure, and named
attributes. It is written as one JSON object or as a plain line. The JSON object holds time, level,
logger and message, then the failure, then the structured fields that the event carries. An
attribute under the name of a part of the event takes the place of that part, and once the storage
of attributes was replaced the event has no parts of its own. A value can take the place of the
failure: a sequence of a kind, a failure and a trace, of which only the kind can be given as a
value.
-/

namespace ClusterAccess.Logging

/-! ### Reports given as values -/

/-- The place of the trace, behind the kind and the failure. -/
def tracePlace : Nat := 2

/-- The report of a value in the place of a failure; one that does not count as given is none. The
trace is looked at first. A text has texts in its places, which are no traces. -/
def reportOf (v : Value) : Except Misuse (Option String) :=
  if !v.truthy then .ok none
  else
    match v with
    | .str s =>
      if s.length ≤ tracePlace then .error (.tooFewPlaces v) else .error (.lacking "tb_frame" v)
    | .list (_ :: failure :: trace :: _) =>
      match trace, failure with
      | .null, .null => .ok (some "NoneType: None")
      | .null, failure => .error (.lacking "__suppress_context__" failure)
      | trace, _ => .error (.lacking "tb_frame" trace)
    | .list _ => .error (.tooFewPlaces v)
    | .map _ => .error (.missingPlace tracePlace)
    | v => .error (.noPlaces v)

/-! ### Events -/

inductive Arguments
  | row (xs : List Value)
  | map (entries : List (Value × Value))
  deriving Repr

structure Event where
  logger : String
  level : Value
  message : Value
  arguments : Arguments := .row []
  /-- The failure that is logged and those that it came of. -/
  failure : Option (Failure × List Failure) := none
  attributes : Storage := {}

/-- The values to fill in, if there are any. A row of one map that has entries stands for the map,
and a map of one entry is taken for a row without a first member. -/
def Arguments.values? : Arguments → Except Failure (Option Template.Values)
  | .row [] => .ok none
  | .row [.map (e :: es)] => .ok (some (.ofEntries (e :: es)))
  | .row xs => .ok (some (.row xs))
  | .map [] => .ok none
  | .map [_] => .error (.foreign .key [.int 0])
  | .map es => .ok (some (.ofEntries es))

namespace Event

def typeLabel : String := "LogRecord"

def attribute? (e : Event) (name : String) : Option Value :=
  e.attributes.find? name

def part {α : Type} (e : Event) (name : String) (own : α) (read : Value → α) : Except Failure α :=
  (e.attributes.part typeLabel name own read).mapError Failure.misuse

def valuesOf? (v : Value) : Option Template.Values :=
  if v.truthy then some (.ofOperand v) else none

/-- The message with its values filled in; without values it is taken as it is. An attribute in the
place of the function that makes the message leaves none. -/
def text (e : Event) : Except Failure String := do
  let values ← e.arguments.values?
  match e.attribute? "getMessage" with
  | some v => .error (.misuse (.notAFunction v))
  | none => pure ()
  let template ← Failure.textOf (← e.part "msg" e.message id)
  let values ← e.part "args" values valuesOf?
  match values with
  | none => pure template
  | some values => (Template.fill template values).mapError Failure.template

/-- The report of the failure that is logged, or of an attribute in its place. -/
def report? (e : Event) : Except Failure (Option String) := do
  let own : Except Misuse (Option String) := .ok (e.failure.map fun f => f.1.report f.2)
  let report ← e.part "exc_info" own reportOf
  report.mapError Failure.misuse

def fields (e : Event) : List (String × Value) :=
  structuredFields.filterMap fun name => (e.attribute? name).map fun v => (name, v)

def members (e : Event) (time : String) : Except Failure (List (String × Value)) := do
  let level ← e.part "levelname" (.str (levelName e.level)) id
  let logger ← e.part "name" (.str e.logger) id
  let text ← e.text
  let report ← e.report?
  let start : List (String × Value) :=
    [("timestamp", .str time), ("level", level), ("logger", logger), ("message", .str text)]
  let exception : List (String × Value) :=
    match report with
    | some r => [("exception", .str r)]
    | none => []
  pure (start ++ exception ++ e.fields)

def structuredLine (e : Event) (time : String) : Except Failure String := do
  let members ← e.members time
  (Json.write Json.spaced (Value.ofFields members)).mapError Failure.ofWriting

def assignAll (e : Event) : List (Value × Value) → Except Failure Event
  | [] => .ok e
  | (name, v) :: rest => do
    let attributes ← (e.attributes.set typeLabel name.display v).mapError Failure.assignment
    assignAll { e with attributes := attributes } rest

def assignedLine (e : Event) (assignments : List (Value × Value)) (time : String) :
    Except Failure String := do
  let _ ← e.arguments.values?
  let e ← e.assignAll assignments
  e.structuredLine time

def withReport (line : String) : Option String → String
  | none => line
  | some r => if line.toList.getLast? = some '\n' then line ++ r else line ++ "\n" ++ r

def plainLine (e : Event) (time : String) : Except Failure String := do
  let text ← e.text
  let report ← e.report?
  pure (withReport (" - ".intercalate [time, e.logger, levelName e.level, text]) report)

def bareLine (e : Event) : Except Failure String := do
  let text ← e.text
  pure (withReport text (← e.report?))

end Event
end ClusterAccess.Logging
