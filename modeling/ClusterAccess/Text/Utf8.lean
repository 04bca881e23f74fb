import ClusterAccess.Text.Utf16

/-!
# UTF-8

`encode` writes characters as bytes; `decode` accepts exactly the well-formed sequences: no
overlong form, no surrogate, nothing above U+10FFFF and nothing cut short. A surrogate that a text
holds has no bytes; `surrogates?` finds the first ones.
-/

namespace ClusterAccess.Text.Utf8

def encodeNat (n : Nat) : List UInt8 :=
  if n < 0x80 then [n.toUInt8]
  else if n < 0x800 then [(0xC0 + n / 64).toUInt8, (0x80 + n % 64).toUInt8]
  else if n < 0x10000 then
    [(0xE0 + n / 4096).toUInt8, (0x80 + n / 64 % 64).toUInt8, (0x80 + n % 64).toUInt8]
  else
    [(0xF0 + n / 262144).toUInt8, (0x80 + n / 4096 % 64).toUInt8, (0x80 + n / 64 % 64).toUInt8,
      (0x80 + n % 64).toUInt8]

def encodeChar (c : Char) : List UInt8 :=
  encodeNat c.toNat

def encode (cs : List Char) : List UInt8 :=
  cs.flatMap encodeChar

/-- The six bits that a continuation byte carries. -/
def continuation (b : UInt8) : Option Nat :=
  if 0x80 ≤ b.toNat && b.toNat < 0xC0 then some (b.toNat - 0x80) else none

def scalar (least n : Nat) : Option Char :=
  if h : n.isValidChar then if least ≤ n then some (Char.ofNatAux n h) else none else none

def decode : List UInt8 → Option (List Char)
  | [] => some []
  | b :: rest =>
    let n := b.toNat
    if n < 0x80 then (decode rest).map (Char.ofNat n :: ·)
    else if n < 0xC0 then none
    else if n < 0xE0 then
      match rest with
      | b1 :: rest => do
        let c1 ← continuation b1
        let c ← scalar 0x80 ((n - 0xC0) * 64 + c1)
        (decode rest).map (c :: ·)
      | _ => none
    else if n < 0xF0 then
      match rest with
      | b1 :: b2 :: rest => do
        let c1 ← continuation b1
        let c2 ← continuation b2
        let c ← scalar 0x800 ((n - 0xE0) * 4096 + c1 * 64 + c2)
        (decode rest).map (c :: ·)
      | _ => none
    else if n < 0xF8 then
      match rest with
      | b1 :: b2 :: b3 :: rest => do
        let c1 ← continuation b1
        let c2 ← continuation b2
        let c3 ← continuation b3
        let c ← scalar 0x10000 ((n - 0xF0) * 262144 + c1 * 4096 + c2 * 64 + c3)
        (decode rest).map (c :: ·)
      | _ => none
    else none

def sequenceLength (b : UInt8) : Nat :=
  if b.toNat < 0xC0 then 1 else if b.toNat < 0xE0 then 2 else if b.toNat < 0xF0 then 3 else 4

/-- The characters up to the first sequence that is not well formed, and the bytes from there on. -/
def decodeFront (bytes : List UInt8) : List Char × List UInt8 :=
  go bytes.length bytes []
where
  go : Nat → List UInt8 → List Char → List Char × List UInt8
    | 0, bs, cs => (cs.reverse, bs)
    | fuel + 1, bs, cs =>
      match bs with
      | [] => (cs.reverse, [])
      | b :: _ =>
        match decode (bs.take (sequenceLength b)) with
        | some [c] => go fuel (bs.drop (sequenceLength b)) (c :: cs)
        | _ => (cs.reverse, bs)

/-- The first surrogate in a text that is refused, its place, and the place behind it and all
surrogates that follow it at once. -/
def surrogates? (refused : Nat → Bool) (cs : List Char) : Option (Nat × Nat × Nat) :=
  let before := cs.takeWhile fun c => !(Utf16.surrogate? c).any refused
  match cs.drop before.length with
  | [] => none
  | c :: rest =>
    let more := rest.takeWhile fun c => (Utf16.surrogate? c).isSome
    (Utf16.surrogate? c).map fun n => (n, before.length, before.length + 1 + more.length)

def ofString (s : String) : List UInt8 :=
  encode s.toList

def toString? (bytes : List UInt8) : Option String :=
  (decode bytes).map String.ofList

end ClusterAccess.Text.Utf8
