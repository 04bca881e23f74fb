import ClusterAccess.Text.Blank

/-!
# File paths

A path is a root and a list of names. Repeated slashes and single dots are dropped when a path is
read, double dots are kept. Two leading slashes are a root of their own, three are one slash.
-/

namespace ClusterAccess

structure FilePath where
  /-- Empty for a relative path, otherwise one or two slashes. -/
  root : String
  parts : List String
  deriving DecidableEq, Repr

namespace FilePath

def rootOf (cs : List Char) : String :=
  match (cs.takeWhile (· == '/')).length with
  | 0 => ""
  | 2 => "//"
  | _ => "/"

def ofString (s : String) : FilePath :=
  { root := rootOf s.toList
    parts := (Text.split '/' s).filter fun p => p != "" && p != "." }

/-- The text of a path; the empty relative path is a dot. -/
def text (p : FilePath) : String :=
  if p.root = "" ∧ p.parts = [] then "." else p.root ++ "/".intercalate p.parts

/-- A relative path is taken below the base, a rooted one replaces it. -/
def join (base p : FilePath) : FilePath :=
  if p.root = "" then { base with parts := base.parts ++ p.parts } else p

/-- The path without its last name; a path without names is its own parent. -/
def parent (p : FilePath) : FilePath :=
  { p with parts := p.parts.dropLast }

end FilePath
end ClusterAccess
