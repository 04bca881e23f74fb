import ClusterAccess.Text.Quoted
import ClusterAccess.Text.Utf8
import ClusterAccess.World.FilePath

/-!
# The surroundings of a resolution

What an operation can see of its process: the files and folders and which of them is the working
directory, the environment variables, the home directories of accounts, and what the credential
plugin does. All of it is plain data, so an outcome depends on nothing else.
-/

namespace ClusterAccess

inductive Contents
  | bytes (bs : List UInt8)
  | denied
  deriving DecidableEq, Repr

inductive PluginBehaviour
  | header (value : String)
  | fails (message : String)
  | silent
  deriving DecidableEq, Repr

/-- The position of a file or a folder is the list of names that lead to it from the root. Folders
on the way to what is listed exist as well. -/
structure World where
  /-- The working directory, where relative paths start. -/
  directory : List String := []
  files : List (List String × Contents) := []
  folders : List (List String) := []
  /-- Folders in which nothing may be looked up. -/
  closed : List (List String) := []
  environment : List (String × String) := []
  accounts : List (String × String) := []
  /-- The home directory of the account that the process runs as, if it has an entry. -/
  ownHome : Option String := none
  plugin : PluginBehaviour := .silent
  deriving Repr

inductive FileCause
  | notFound
  | denied
  | notDirectory
  | isDirectory
  | nameTooLong
  deriving DecidableEq, Repr

structure FileError where
  cause : FileCause
  path : String
  deriving DecidableEq, Repr

namespace FileCause

def code : FileCause → Nat
  | .notFound => 2
  | .denied => 13
  | .notDirectory => 20
  | .isDirectory => 21
  | .nameTooLong => 36

def text : FileCause → String
  | .notFound => "No such file or directory"
  | .denied => "Permission denied"
  | .notDirectory => "Not a directory"
  | .isDirectory => "Is a directory"
  | .nameTooLong => "File name too long"

end FileCause

def FileError.message (e : FileError) : String :=
  "[Errno " ++ toString e.cause.code ++ "] " ++ e.cause.text ++ ": " ++
    Text.Quoted.ofString e.path

inductive Node
  | file (contents : Contents)
  | folder (closed : Bool)
  deriving DecidableEq, Repr

def Node.isFile : Node → Bool
  | .file _ => true
  | .folder _ => false

namespace World

def environment? (w : World) (name : String) : Option String :=
  (w.environment.find? fun v => v.1 == name).map Prod.snd

/-- A folder at a position, because it is listed, or because something stands below it. -/
def hasFolder (w : World) (position : List String) : Bool :=
  position.isEmpty || position.isPrefixOf w.directory ||
    w.files.any (fun f => position.isPrefixOf f.1) ||
    w.folders.any (fun d => position.isPrefixOf d) || w.closed.any (fun d => position.isPrefixOf d)

def node? (w : World) (position : List String) : Option Node :=
  match w.files.find? fun f => f.1 == position with
  | some f => some (.file f.2)
  | none => if w.hasFolder position then some (.folder (w.closed.contains position)) else none

/-- The longest name of a file in bytes. -/
def nameLimit : Nat := 255

/-- The longest path in bytes. -/
def pathLimit : Nat := 4095

/-- The bytes of a name, where a surrogate stands for a single one. -/
def byteSize (s : String) : Nat :=
  s.toList.foldl (fun n c => n + if (Text.Utf16.surrogate? c).isSome then 1 else c.utf8Size) 0

/-- What keeps a walk from going on from a position. -/
def obstacle (w : World) (position : List String) : Option FileCause :=
  match w.node? position with
  | none => some .notFound
  | some (.file _) => some .notDirectory
  | some (.folder true) => some .denied
  | some (.folder false) => none

/-- Walk along the names of a path. Every name but the last must be that of a folder; the root is
its own parent. -/
def walk (w : World) (position : List String) : List String → Except FileCause (List String)
  | [] => .ok position
  | name :: rest =>
    match w.obstacle position with
    | some cause => .error cause
    | none =>
      if name = ".." then walk w position.dropLast rest
      else if nameLimit < byteSize name then .error .nameTooLong
      else walk w (position ++ [name]) rest

def lookAt (w : World) (position : List String) : Except FileCause Node :=
  match w.node? position with
  | some n => .ok n
  | none => .error .notFound

/-- Where the walk along a path starts. -/
def start (w : World) (p : FilePath) : List String :=
  if p.root = "" then w.directory else []

def stat (w : World) (p : FilePath) : Except FileCause Node :=
  if pathLimit < byteSize p.text then .error .nameTooLong
  else (w.walk (w.start p) p.parts).bind w.lookAt

def hasNul (p : FilePath) : Bool :=
  p.text.toList.contains '\x00'

/-- The first surrogate of a text that the system cannot write as bytes, and its place. -/
def unwritten? (s : String) : Option (Nat × Nat × Nat) :=
  Text.Utf8.surrogates? (fun n => !Text.Utf16.isByteMark n) s.toList

/-- A path that the system does not take, so that nothing can stand there. -/
def unnameable (p : FilePath) : Bool :=
  hasNul p || (unwritten? p.text).isSome

/-- Whether a question about a path is answered with no, or the access itself fails. -/
def ask (w : World) (p : FilePath) (test : Node → Bool) : Except FileError Bool :=
  if unnameable p then .ok false
  else
    match w.stat p with
    | .ok n => .ok (test n)
    | .error .notFound => .ok false
    | .error .notDirectory => .ok false
    | .error c => .error ⟨c, p.text⟩

/-- Whether a path leads to a file, readable or not. -/
def isFile (w : World) (p : FilePath) : Except FileError Bool :=
  w.ask p Node.isFile

def present (w : World) (p : FilePath) : Except FileError Bool :=
  w.ask p fun _ => true

def read (w : World) (p : FilePath) : Except FileError (List UInt8) :=
  match w.stat p with
  | .ok (.file (.bytes bs)) => .ok bs
  | .ok (.file .denied) => .error ⟨.denied, p.text⟩
  | .ok (.folder _) => .error ⟨.isDirectory, p.text⟩
  | .error c => .error ⟨c, p.text⟩

end World
end ClusterAccess
