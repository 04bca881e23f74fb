import ClusterAccess.World.Basic

/-!
# Home directories in paths

A relative path whose first name starts with a tilde stands for a path below a home directory. For
a lone tilde it is the one of the environment, or else that of the account that the process runs as;
otherwise it is that of the account named after the tilde.
-/

namespace ClusterAccess

inductive HomeError
  | unknown
  /-- An account name with a surrogate that stands for no byte: the surrogate, its place and the
  place behind those that follow it. -/
  | unencodable (surrogate start stop : Nat)
  | nul
  deriving DecidableEq, Repr

namespace World

/-- The home directory of an account that is asked for by name. -/
def accountHome (w : World) (account : String) : Except HomeError String :=
  match unwritten? account with
  | some (n, start, stop) => .error (.unencodable n start stop)
  | none =>
    if account.toList.contains '\x00' then .error .nul
    else
      match w.accounts.find? fun a => a.1 == account with
      | some a => .ok a.2
      | none => .error .unknown

def homeFor (w : World) (name : String) : Except HomeError String :=
  match name.toList with
  | ['~'] =>
    match (w.environment? "HOME").or w.ownHome with
    | some home => .ok home
    | none => .error .unknown
  | cs => w.accountHome (String.ofList (cs.drop 1))

/-- A home directory without slashes at its end; one that was nothing but slashes is the root. -/
def tidyHome (home : String) : String :=
  match (home.toList.reverse.dropWhile (· == '/')).reverse with
  | [] => "/"
  | cs => String.ofList cs

def expandHome (w : World) (p : FilePath) : Except HomeError FilePath :=
  match p.parts with
  | [] => .ok p
  | name :: rest =>
    if p.root = "" ∧ name.toList.head? = some '~' then do
      let home := tidyHome (← w.homeFor name)
      if home.toList.head? = some '~' then .error .unknown
      else
        let base := FilePath.ofString home
        pure { base with parts := base.parts ++ rest }
    else .ok p

end World
end ClusterAccess
