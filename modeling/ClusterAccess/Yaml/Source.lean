import ClusterAccess.Text.Blank
import ClusterAccess.Text.Utf8
import ClusterAccess.Yaml.Cursor

/-!
# Texts that arrive in pieces

A file is decoded and examined piece by piece, each piece when the first character of it is needed.
A source is the text in front of the first faulty piece, and the fault: bytes that are not UTF-8, or
a character that a YAML text cannot hold. The first two pieces arrive at once.
-/

namespace ClusterAccess.Yaml

structure Source where
  text : List Char
  /-- The fault of the piece behind the text; without one the text is complete. -/
  fault : Option Trouble := none
  deriving Repr

namespace Source

def pieceSize : Nat := 4096

/-- The number of bytes that are decoded together. -/
def chunkSize : Nat := 8192

/-- The place where the piece with a character starts, given the place of the character. -/
def pieceStart (place : Nat) : Nat :=
  let start := place / pieceSize * pieceSize
  if start ≤ pieceSize then 0 else start

def isReadable (c : Char) : Bool :=
  let n := c.toNat
  n == 0x09 || n == 0x0A || n == 0x0D || (0x20 ≤ n && n ≤ 0x7E) || n == 0x85 ||
    (0xA0 ≤ n && n ≤ 0xFFFD) || 0x10000 ≤ n

/-- A text in which `fault` follows; a character that is not readable comes first. -/
def ofText (text : List Char) (fault : Option Trouble) : Source :=
  let readable := text.takeWhile isReadable
  if readable.length = text.length then { text := text, fault := fault }
  else { text := text.take (pieceStart readable.length), fault := some .malformed }

def ofBytes (bytes : List UInt8) : Source :=
  match Text.Utf8.decode bytes with
  | some cs => ofText (Text.unifyLineEnds cs) none
  | none =>
    let sound := bytes.length - (Text.Utf8.decodeFront bytes).2.length
    let chunks := bytes.take (sound / chunkSize * chunkSize)
    let text := Text.unifyLineEnds (Text.Utf8.decodeFront chunks).1
    ofText (text.take (pieceStart text.length)) (some .undecodable)

end Source
end ClusterAccess.Yaml
