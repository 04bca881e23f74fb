import ClusterAccess.Text.Hex

/-!
# SHA-256

The digest of a byte string: the padded string is cut into blocks of sixteen words, and each block
is mixed into eight words of state in sixty-four rounds.
-/

namespace ClusterAccess.Digest

structure State where
  a : UInt32
  b : UInt32
  c : UInt32
  d : UInt32
  e : UInt32
  f : UInt32
  g : UInt32
  h : UInt32
  deriving DecidableEq, Repr

namespace State

/-- The fractional parts of the square roots of the first eight primes. -/
def initial : State :=
  { a := 0x6a09e667, b := 0xbb67ae85, c := 0x3c6ef372, d := 0xa54ff53a
    e := 0x510e527f, f := 0x9b05688c, g := 0x1f83d9ab, h := 0x5be0cd19 }

def add (s t : State) : State :=
  { a := s.a + t.a, b := s.b + t.b, c := s.c + t.c, d := s.d + t.d
    e := s.e + t.e, f := s.f + t.f, g := s.g + t.g, h := s.h + t.h }

def words (s : State) : List UInt32 :=
  [s.a, s.b, s.c, s.d, s.e, s.f, s.g, s.h]

end State

/-- The fractional parts of the cube roots of the first sixty-four primes, one for each round. -/
def roundConstants : List UInt32 :=
  [0x428a2f98, 0x71374491, 0xb5c0fbcf, 0xe9b5dba5, 0x3956c25b, 0x59f111f1, 0x923f82a4, 0xab1c5ed5,
    0xd807aa98, 0x12835b01, 0x243185be, 0x550c7dc3, 0x72be5d74, 0x80deb1fe, 0x9bdc06a7, 0xc19bf174,
    0xe49b69c1, 0xefbe4786, 0x0fc19dc6, 0x240ca1cc, 0x2de92c6f, 0x4a7484aa, 0x5cb0a9dc, 0x76f988da,
    0x983e5152, 0xa831c66d, 0xb00327c8, 0xbf597fc7, 0xc6e00bf3, 0xd5a79147, 0x06ca6351, 0x14292967,
    0x27b70a85, 0x2e1b2138, 0x4d2c6dfc, 0x53380d13, 0x650a7354, 0x766a0abb, 0x81c2c92e, 0x92722c85,
    0xa2bfe8a1, 0xa81a664b, 0xc24b8b70, 0xc76c51a3, 0xd192e819, 0xd6990624, 0xf40e3585, 0x106aa070,
    0x19a4c116, 0x1e376c08, 0x2748774c, 0x34b0bcb5, 0x391c0cb3, 0x4ed8aa4a, 0x5b9cca4f, 0x682e6ff3,
    0x748f82ee, 0x78a5636f, 0x84c87814, 0x8cc70208, 0x90befffa, 0xa4506ceb, 0xbef9a3f7, 0xc67178f2]

def rotateRight (x n : UInt32) : UInt32 :=
  (x >>> n) ||| (x <<< (32 - n))

def round (s : State) (k w : UInt32) : State :=
  let high := rotateRight s.e 6 ^^^ rotateRight s.e 11 ^^^ rotateRight s.e 25
  let choice := (s.e &&& s.f) ^^^ (~~~s.e &&& s.g)
  let mixed := s.h + high + choice + k + w
  let low := rotateRight s.a 2 ^^^ rotateRight s.a 13 ^^^ rotateRight s.a 22
  let majority := (s.a &&& s.b) ^^^ (s.a &&& s.c) ^^^ (s.b &&& s.c)
  { a := mixed + low + majority, b := s.a, c := s.b, d := s.c
    e := s.d + mixed, f := s.e, g := s.f, h := s.g }

def nextWord (window : List UInt32) : UInt32 :=
  let early := window.getD 1 0
  let late := window.getD 14 0
  window.getD 0 0 + (rotateRight early 7 ^^^ rotateRight early 18 ^^^ (early >>> 3)) +
    window.getD 9 0 + (rotateRight late 17 ^^^ rotateRight late 19 ^^^ (late >>> 10))

/-- The rounds for a list of constants; the window holds the next sixteen words of the schedule. -/
def rounds (s : State) (window : List UInt32) : List UInt32 → State
  | [] => s
  | k :: ks => rounds (round s k (window.getD 0 0)) (window.drop 1 ++ [nextWord window]) ks

def mix (s : State) (block : List UInt32) : State :=
  s.add (rounds s block roundConstants)

/-- Bytes taken four at a time, most significant first. -/
def wordsOf : List UInt8 → List UInt32
  | a :: b :: c :: d :: rest =>
    ((a.toUInt32 <<< 24) ||| (b.toUInt32 <<< 16) ||| (c.toUInt32 <<< 8) ||| d.toUInt32) ::
      wordsOf rest
  | _ => []

def bytesOfWord (w : UInt32) : List UInt8 :=
  [(w >>> 24).toUInt8, (w >>> 16).toUInt8, (w >>> 8).toUInt8, w.toUInt8]

/-- A one bit, zeros, and the number of bits in sixty-four bits, to a multiple of 64 bytes. -/
def padding (length : Nat) : List UInt8 :=
  let bits := (8 * length).toUInt64
  let zeros : List UInt8 := List.replicate ((119 - length % 64) % 64) 0
  0x80 :: zeros ++ bytesOfWord (bits >>> 32).toUInt32 ++ bytesOfWord bits.toUInt32

def mixAll (s : State) (words : List UInt32) : State :=
  if words.length < 16 then s
  else mixAll (mix s (words.take 16)) (words.drop 16)
termination_by words.length
decreasing_by rw [List.length_drop]; omega

def sha256 (bytes : List UInt8) : List UInt8 :=
  (mixAll .initial (wordsOf (bytes ++ padding bytes.length))).words.flatMap bytesOfWord

def sha256Hex (bytes : List UInt8) : String :=
  String.ofList (Text.Hex.ofBytes (sha256 bytes))

end ClusterAccess.Digest
