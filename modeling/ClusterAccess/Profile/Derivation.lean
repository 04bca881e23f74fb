import ClusterAccess.Document.Fingerprint
import ClusterAccess.Fault.Traced
import ClusterAccess.Profile.Basic
import ClusterAccess.Validation.Finished

/-!
# Deriving profiles

A profile that acts as somebody else keeps everything but the user and the groups; a profile
without certificate verification is announced by a warning. Profiles whose parts can all be hashed
have fingerprints. Those derived from a finished profile have its attributes.
-/

namespace ClusterAccess

/-- The members of a value: those of a sequence, the characters of a text, the keys of a map. -/
def Value.members? : Value → Option (List Value)
  | .list xs => some xs
  | .tuple xs => some xs
  | .set xs => some xs
  | .str s => some (s.toList.map fun c => .str c.toString)
  | .bytes bs => some (bs.map fun b => .int b.toNat)
  | .map es => some (es.map Prod.fst)
  | _ => none

namespace Profile

def impersonating (p : Profile) (user groups : Value) : Except Failure Profile :=
  match groups.members? with
  | some xs => .ok (p.withImpersonation user xs)
  | none => .error (.notIterable groups)

def trustingAnyone (p : Profile) : Traced Profile := do
  Traced.log p.verificationWarning
  pure p.withoutVerification

def unhashable? (p : Profile) : Option String :=
  p.impersonate.unhashable?.or (Value.unhashableIn? p.groups)

def sameFingerprint (p q : Profile) : Except Failure Bool :=
  match p.unhashable?.or q.unhashable? with
  | some name => .error (.unhashable name)
  | none =>
    let texts (p : Profile) : List Value := [.str p.endpoint, .str p.userAgent, .bool p.verify]
    .ok (p.credentials == q.credentials && p.trust == q.trust &&
      Value.sameFingerprints (texts p) (texts q) &&
      p.impersonate.sameFingerprint q.impersonate && Value.sameFingerprints p.groups q.groups)

end Profile

/-! ### Finished profiles -/

instance : Fielded Profile where
  typeLabel := Profile.typeLabel
  fieldTexts := Profile.fieldTexts
  same := Profile.same
  plainNames := ["api_server_endpoint"]
  structuredName := ("credentials", "model_dump")

namespace Finished

def impersonating (x : Finished Profile) (user groups : Value) :
    Except Failure (Finished Profile) := do
  x.derive "impersonate" (← x.value.impersonating user groups)

/-- The profile without certificate verification; the warning about it comes first. -/
def trustingAnyone (x : Finished Profile) : Traced (Finished Profile) := do
  let p ← x.value.trustingAnyone
  Traced.lift (x.derive "verify_ssl_certs" p)

def compare (x y : Finished Profile) : Except Failure (Bool × Bool) := do
  let same ← x.same y
  pure (same, ← x.value.sameFingerprint y.value)

end Finished
end ClusterAccess
