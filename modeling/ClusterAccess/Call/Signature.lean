import ClusterAccess.Document.Display

/-!
# Calls with named arguments

A signature names the parameters of a function in order and says which of them must be given.
Arguments come in order or by name; each parameter takes one.
-/

namespace ClusterAccess

structure Signature where
  function : String
  /-- The names of the parameters that must be given, which come first. -/
  required : List String
  optional : List String
  deriving DecidableEq, Repr

inductive CallError
  | unexpected (function name : String)
  | repeated (function name : String)
  | tooMany (function : String) (least most given : Nat)
  | missing (function : String) (names : List String)
  deriving DecidableEq, Repr

namespace CallError

/-- Names between quotes, the last one after an "and". -/
def listed : List String → String
  | [] => ""
  | [a] => "'" ++ a ++ "'"
  | [a, b] => "'" ++ a ++ "' and '" ++ b ++ "'"
  | [a, b, c] => "'" ++ a ++ "', '" ++ b ++ "', and '" ++ c ++ "'"
  | a :: rest => "'" ++ a ++ "', " ++ listed rest

def message : CallError → String
  | .unexpected f name => f ++ "() got an unexpected keyword argument '" ++ name ++ "'"
  | .repeated f name => f ++ "() got multiple values for argument '" ++ name ++ "'"
  | .tooMany f least most given =>
    f ++ "() takes from " ++ toString least ++ " to " ++ toString most ++
      " positional arguments but " ++ toString given ++
      (if given = 1 then " was given" else " were given")
  | .missing f names =>
    f ++ "() missing " ++ toString names.length ++ " required positional argument" ++
      (if names.length = 1 then "" else "s") ++ ": " ++ listed names

end CallError

namespace Signature

abbrev Bound := List (String × Value)

def parameters (s : Signature) : List String :=
  s.required ++ s.optional

def bindNamed (s : Signature) (bound : Bound) (argument : String × Value) :
    Except CallError Bound :=
  if !s.parameters.contains argument.1 then .error (.unexpected s.function argument.1)
  else if (bound.lookup argument.1).isSome then .error (.repeated s.function argument.1)
  else .ok (bound ++ [argument])

def bind (s : Signature) (positional : List Value) (named : List (String × Value)) :
    Except CallError Bound := do
  let bound ← named.foldlM s.bindNamed (s.parameters.zip positional)
  if s.parameters.length < positional.length then
    .error (.tooMany s.function s.required.length s.parameters.length positional.length)
  else
    match s.required.filter fun name => (bound.lookup name).isNone with
    | [] => pure bound
    | names => .error (.missing s.function names)

end Signature
end ClusterAccess
