import ClusterAccess.Fault.Failure

/-!
# Options of the lookup of settings

Some names that start with an underscore name no setting. The values given under them say which
files of variables are read, whether letter case counts in the names of variables, and whether an
empty text counts as a value.
-/

namespace ClusterAccess.Settings

structure Options where
  /-- The files of variables; a later one wins over an earlier one. -/
  files : List Value := [.str ".env"]
  caseCounts : Bool := false
  ignoresEmpty : Bool := false
  deriving Repr

namespace Options

def filesOf : Value → Except Failure (List Value)
  | .null => .ok []
  | .str s => .ok [.str s]
  | .list xs => .ok xs
  | .map es => .ok (es.map Prod.fst)
  | v => .error (.notIterable v)

def flag (given : List (Value × Value)) (name : String) : Bool :=
  ((Value.field? given name).map Value.truthy).getD false

def ofGiven (given : List (Value × Value)) : Except Failure Options := do
  let standard : Options := {}
  let files ← ((Value.field? given "_env_file").map filesOf).getD (.ok standard.files)
  pure
    { files := files
      caseCounts := flag given "_case_sensitive"
      ignoresEmpty := flag given "_env_ignore_empty" }

end Options
end ClusterAccess.Settings
