import ClusterAccess.Fault.Failure

/-!
# Reports of failures

A report names the kind of a failure and gives its text. A failure that came of another one is
reported after it.
-/

namespace ClusterAccess

def FileCause.label : FileCause → String
  | .notFound => "FileNotFoundError"
  | .denied => "PermissionError"
  | .notDirectory => "NotADirectoryError"
  | .isDirectory => "IsADirectoryError"
  | .nameTooLong => "OSError"

def ScalarError.label : ScalarError → String
  | .notAMoment => "AttributeError"
  | .textRequired => "TypeError"
  | .integerTooLarge => "OverflowError"
  | .notAWord _ => "KeyError"
  | .emptyNumber => "IndexError"
  | .codePoint n => if n < 0x80000000 then "ValueError" else "OverflowError"
  | _ => "ValueError"

def Misuse.label : Misuse → String
  | .noPlaces _ => "TypeError"
  | .missingPlace _ => "KeyError"
  | .tooFewPlaces _ => "IndexError"
  | .noNames _ => "TypeError"
  | .missingName _ => "KeyError"
  | .lacks _ _ => "AttributeError"
  | .notAFunction _ => "TypeError"
  | .notAnEntry _ => "ValueError"

def AssignmentError.label : AssignmentError → String
  | .frozenField _ => "ValidationError"
  | .notAType _ => "TypeError"
  | .notStorage _ => "TypeError"
  | .readOnlyName _ _ => "AttributeError"
  | .computedName _ _ => "AttributeError"
  | .misuse e => e.label

def TemplateError.label : TemplateError → String
  | .incomplete => "ValueError"
  | .openName => "ValueError"
  | .missingName _ => "KeyError"
  | .widthTooBig => "ValueError"
  | .precisionTooBig => "ValueError"
  | .unknownLetter _ _ => "ValueError"
  | .noInteger => "ValueError"
  | .tooLongToWrite => "ValueError"
  | .amountOutOfRange _ => "OverflowError"
  | .precisionTooLarge => "OverflowError"
  | .textTooLong => "MemoryError"
  | .infiniteInteger => "OverflowError"
  | .integerTooLarge => "OverflowError"
  | .noSuchCharacter => "OverflowError"
  | _ => "TypeError"

def Logging.LevelError.label : Logging.LevelError → String
  | .notAText _ => "AttributeError"
  | .unknownName _ => "ValueError"
  | .notALevel _ => "TypeError"
  | .notAnInteger => "TypeError"

namespace Failure

def label : Failure → String
  | .fault f => f.rank.label
  | .invalid _ => "ValidationError"
  | .undecodable => "UnicodeDecodeError"
  | .unencodable _ _ _ => "UnicodeEncodeError"
  | .undumpable _ => "PydanticSerializationError"
  | .file e => e.cause.label
  | .nullCharacter => "ValueError"
  | .homeUnknown => "RuntimeError"
  | .notAPath _ => "TypeError"
  | .foreignBase64 => "ValueError"
  | .base64 _ => "Error"
  | .malformed => "YAMLError"
  | .scalar e => e.label
  | .notAStrategy _ => "ValueError"
  | .assignment e => e.label
  | .readOnlyChildren => "TypeError"
  | .notIterable _ => "TypeError"
  | .unhashable _ => "TypeError"
  | .notAnIndex _ => "TypeError"
  | .indexTooLarge => "ValueError"
  | .call _ => "TypeError"
  | .template e => e.label
  | .level e => e.label
  | .misuse e => e.label
  | .reservedField _ => "KeyError"
  | .badMemberName _ => "TypeError"
  | .plugin _ => "ConfigException"
  | .foreign kind xs => foreignLabel kind xs

/-- The name of a kind of failure in a report, where faults carry the name of their family. -/
def reportLabel : Failure → String
  | .fault f => "kube_operator.errors.operator_errors." ++ f.rank.label
  | e => e.label

/-- A failure by itself; one without a text is only named. -/
def reportLine (e : Failure) : String :=
  if e.message = "" then e.reportLabel else e.reportLabel ++ ": " ++ e.message

def succession : String :=
  "\n\nThe above exception was the direct cause of the following exception:\n\n"

/-- A failure and those that it came of, the first one first. -/
def report (e : Failure) (origins : List Failure) : String :=
  succession.intercalate ((e :: origins).reverse.map reportLine)

end Failure
end ClusterAccess
