import ClusterAccess.Document.Value

/-!
# Fingerprints of values

Equal values have equal fingerprints, and a value has one only if it can be a key. Fingerprints of
numbers are residues modulo a prime, so that a number has the same one whatever its type; values of
other kinds are told apart exactly, but for the empty text, which is fingerprinted as zero.
-/

namespace ClusterAccess.Value

def fingerprintPrime : Nat := Number.twoTo 61 - 1

/-- The residue of a sign and a magnitude. Minus one is no fingerprint; minus two stands for it. -/
def residue (negative : Bool) (magnitude : Nat) : Int :=
  let r : Int := (magnitude % fingerprintPrime : Nat)
  let signed := if negative then -r else r
  if signed = -1 then -2 else signed

/-- A power of two modulo the prime; the powers repeat after sixty-one steps. -/
def twoPower (e : Int) : Nat :=
  Number.twoTo (e % 61).toNat

/-- The fingerprint of a number, or of a text that counts as one. -/
def numberFingerprint? : Value → Option Int
  | .bool b => some (if b then 1 else 0)
  | .int i => some (residue (i < 0) i.natAbs)
  | .float (.finite s m e) => some (residue s (m % fingerprintPrime * twoPower e))
  | .float (.infinite s) => some (if s then -314159 else 314159)
  | .str "" => some 0
  | .bytes [] => some 0
  | _ => none

mutual

def sameFingerprint (v w : Value) : Bool :=
  match v, w with
  | .tuple xs, .tuple ys => sameFingerprints xs ys
  | v, w =>
    match v.numberFingerprint?, w.numberFingerprint? with
    | some a, some b => a == b
    | none, none => v.same w
    | _, _ => false

def sameFingerprints (xs ys : List Value) : Bool :=
  match xs, ys with
  | [], [] => true
  | x :: xs, y :: ys => sameFingerprint x y && sameFingerprints xs ys
  | _, _ => false

end

end ClusterAccess.Value
