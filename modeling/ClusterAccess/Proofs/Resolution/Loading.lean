import ClusterAccess.Proofs.Resolution.Discovery
import ClusterAccess.Proofs.Yaml.Contents
import ClusterAccess.Proofs.Yaml.Nodes
import ClusterAccess.Proofs.Yaml.Stream

/-!
# Loading a located file

A located file is loaded as the mapping that it holds, or loading ends in a fault that names the
path. Content that is a trap ends it in another failure (`load_contained_iff`): bytes that are no
text, an escape above all code points, a version of too many digits, or a scalar that cannot be read
as its tag asks.
-/

namespace ClusterAccess.Kubeconfig

open Yaml (Source Token Graph)

variable {w : World} {path : Value} {p : FilePath} {bytes : List UInt8} {e : Failure}

/-- Surroundings with a file at `config`. -/
def configured (bytes : List UInt8) : World :=
  { files := [(["config"], .bytes bytes)] }

end ClusterAccess.Kubeconfig
