import ClusterAccess.Digest.Sha256
import ClusterAccess.Logging.Level

/-!
# The store for key material

Certificates and keys that a client takes only as files are kept in one private folder, which is
made when the first of them is stored. A file is named by the digest of the contents it was made
for, so the same contents are stored once; a file that exists is not written again.
-/

namespace ClusterAccess.Connection

def loggerName : String := "kube_operator.utils.kubernetes"

inductive Material
  | certificate
  | privateKey
  deriving DecidableEq, Repr

def Material.suffix : Material → String
  | .certificate => ".crt"
  | .privateKey => ".key"

structure StoredFile where
  name : String
  mode : Nat
  contents : List UInt8
  deriving DecidableEq, Repr

/-- The files in the folder, in the order in which they were made; none if there is no folder. -/
structure KeyStore where
  folder : Option (List StoredFile) := none
  deriving DecidableEq, Repr

namespace KeyStore

def ownerOnly : Nat := 0o600

def files (s : KeyStore) : List StoredFile :=
  s.folder.getD []

def find? (s : KeyStore) (name : String) : Option StoredFile :=
  s.files.find? fun f => f.name == name

def nameFor (kind : Material) (contents : List UInt8) : String :=
  Digest.sha256Hex contents ++ kind.suffix

/-- Store contents under their name unless there is a file of that name. -/
def put (s : KeyStore) (kind : Material) (contents : List UInt8) : KeyStore :=
  let name := nameFor kind contents
  if (s.find? name).isSome then s
  else { folder := some (s.files ++ [{ name := name, mode := ownerOnly, contents := contents }]) }

def cleanup (_ : KeyStore) : KeyStore :=
  { folder := none }

def removedRecord (path : String) : Logging.Record :=
  { level := Logging.debug
    logger := loggerName
    message := "Removed temporary credential directory " ++ path }

/-- Remove the files, but not the folder. -/
def removeFiles (s : KeyStore) : KeyStore :=
  { folder := s.folder.map fun _ => [] }

def overwrite (s : KeyStore) (contents : List UInt8) : KeyStore :=
  { folder := s.folder.map fun fs => fs.map fun f => { f with contents := contents } }

end KeyStore
end ClusterAccess.Connection
