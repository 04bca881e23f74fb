/-!
# Validation issues

An issue says what is wrong with one part of an input and where that part stands. A check either
accepts or collects the issues of all parts, in the order of the parts.
-/

namespace ClusterAccess

inductive IssueKind
  | missing
  | stringType
  | stringUnicode
  | intType
  | intParsing
  | intParsingSize
  | intFromFloat
  | finiteNumber
  | boolType
  | boolParsing
  | literalError
  | enumeration
  | mapType
  | sequenceType
  | modelType
  | modelAttributesType
  | unionTagNotFound
  | unionTagInvalid
  | frozenInstance
  deriving DecidableEq, Repr

def IssueKind.label : IssueKind → String
  | .missing => "missing"
  | .stringType => "string_type"
  | .stringUnicode => "string_unicode"
  | .intType => "int_type"
  | .intParsing => "int_parsing"
  | .intParsingSize => "int_parsing_size"
  | .intFromFloat => "int_from_float"
  | .finiteNumber => "finite_number"
  | .boolType => "bool_type"
  | .boolParsing => "bool_parsing"
  | .literalError => "literal_error"
  | .enumeration => "enum"
  | .mapType => "dict_type"
  | .sequenceType => "tuple_type"
  | .modelType => "model_type"
  | .modelAttributesType => "model_attributes_type"
  | .unionTagNotFound => "union_tag_not_found"
  | .unionTagInvalid => "union_tag_invalid"
  | .frozenInstance => "frozen_instance"

inductive Step
  | field (name : String)
  | index (n : Nat)
  deriving DecidableEq, Repr

structure Issue where
  kind : IssueKind
  location : List Step
  deriving DecidableEq, Repr

/-- The outcome of a check: the accepted value, or at least one issue. -/
abbrev Check (α : Type) := Except (List Issue) α

namespace Check

def refuse {α : Type} (kind : IssueKind) : Check α :=
  .error [{ kind := kind, location := [] }]

/-- Report the issues of a part from the whole that holds it. -/
def within {α : Type} (step : Step) (c : Check α) : Check α :=
  match c with
  | .ok a => .ok a
  | .error issues => .error (issues.map fun i => { i with location := step :: i.location })

/-- Check a second part whatever the first says, and collect the issues of both. -/
def also {α β : Type} (f : Check (α → β)) (a : Check α) : Check β :=
  match f, a with
  | .ok f, .ok a => .ok (f a)
  | .ok _, .error is => .error is
  | .error is, .ok _ => .error is
  | .error is, .error js => .error (is ++ js)

def members {α β : Type} (check : α → Check β) : Nat → List α → Check (List β)
  | _, [] => .ok []
  | n, x :: xs =>
    also ((within (.index n) (check x)).map List.cons) (members check (n + 1) xs)

end Check
end ClusterAccess
