import Vpsman.Lib.Word
import Vpsman.Lib.Hex

/-! # SHA-256

The hash function of the standard, executable, for evaluating models that take a hash
as a parameter on concrete inputs.
-/

namespace Vpsman.Lib.Sha256

def roundConstants : List UInt32 :=
  [
    0x428a2f98, 0x71374491, 0xb5c0fbcf, 0xe9b5dba5, 0x3956c25b, 0x59f111f1, 0x923f82a4, 0xab1c5ed5,
    0xd807aa98, 0x12835b01, 0x243185be, 0x550c7dc3, 0x72be5d74, 0x80deb1fe, 0x9bdc06a7, 0xc19bf174,
    0xe49b69c1, 0xefbe4786, 0x0fc19dc6, 0x240ca1cc, 0x2de92c6f, 0x4a7484aa, 0x5cb0a9dc, 0x76f988da,
    0x983e5152, 0xa831c66d, 0xb00327c8, 0xbf597fc7, 0xc6e00bf3, 0xd5a79147, 0x06ca6351, 0x14292967,
    0x27b70a85, 0x2e1b2138, 0x4d2c6dfc, 0x53380d13, 0x650a7354, 0x766a0abb, 0x81c2c92e, 0x92722c85,
    0xa2bfe8a1, 0xa81a664b, 0xc24b8b70, 0xc76c51a3, 0xd192e819, 0xd6990624, 0xf40e3585, 0x106aa070,
    0x19a4c116, 0x1e376c08, 0x2748774c, 0x34b0bcb5, 0x391c0cb3, 0x4ed8aa4a, 0x5b9cca4f, 0x682e6ff3,
    0x748f82ee, 0x78a5636f, 0x84c87814, 0x8cc70208, 0x90befffa, 0xa4506ceb, 0xbef9a3f7, 0xc67178f2
  ]

/-- The eight words the compression function works on. -/
structure Words where
  a : UInt32
  b : UInt32
  c : UInt32
  d : UInt32
  e : UInt32
  f : UInt32
  g : UInt32
  h : UInt32
  deriving Repr, DecidableEq

def initial : Words :=
  ⟨0x6a09e667, 0xbb67ae85, 0x3c6ef372, 0xa54ff53a,
    0x510e527f, 0x9b05688c, 0x1f83d9ab, 0x5be0cd19⟩

def rotateRight (word count : UInt32) : UInt32 := (word >>> count) ||| (word <<< (32 - count))

/-- One more word of the message schedule, given the words so far with the newest first. -/
def nextWord (schedule : List UInt32) : UInt32 :=
  let old := schedule.getD 14 0
  let new := schedule.getD 1 0
  let small := rotateRight old 7 ^^^ rotateRight old 18 ^^^ (old >>> 3)
  let large := rotateRight new 17 ^^^ rotateRight new 19 ^^^ (new >>> 10)
  schedule.getD 15 0 + small + schedule.getD 6 0 + large

def extend : Nat → List UInt32 → List UInt32
  | 0, schedule => schedule
  | count + 1, schedule => extend count (nextWord schedule :: schedule)

def round (w : Words) (input : UInt32 × UInt32) : Words :=
  let choice := (w.e &&& w.f) ^^^ ((w.e ^^^ 0xffffffff) &&& w.g)
  let majority := (w.a &&& w.b) ^^^ (w.a &&& w.c) ^^^ (w.b &&& w.c)
  let first := w.h + (rotateRight w.e 6 ^^^ rotateRight w.e 11 ^^^ rotateRight w.e 25) + choice +
    input.1 + input.2
  let second := (rotateRight w.a 2 ^^^ rotateRight w.a 13 ^^^ rotateRight w.a 22) + majority
  ⟨first + second, w.a, w.b, w.c, w.d + first, w.e, w.f, w.g⟩

def compress (w : Words) (block : List UInt32) : Words :=
  let schedule := (extend 48 block.reverse).reverse
  let r := (roundConstants.zip schedule).foldl round w
  ⟨w.a + r.a, w.b + r.b, w.c + r.c, w.d + r.d, w.e + r.e, w.f + r.f, w.g + r.g, w.h + r.h⟩

def pad (message : List UInt8) : List UInt8 :=
  message ++ 0x80 :: List.replicate ((119 - message.length % 64) % 64) 0 ++
    toBeBytes (UInt64.ofNat (8 * message.length))

def words : List UInt8 → List UInt32
  | a :: b :: c :: d :: rest =>
    ((a.toUInt32 <<< 24) ||| (b.toUInt32 <<< 16) ||| (c.toUInt32 <<< 8) ||| d.toUInt32) ::
      words rest
  | _ => []

def blocks : Nat → List UInt32 → List (List UInt32)
  | 0, _ => []
  | count + 1, words => words.take 16 :: blocks count (words.drop 16)

def wordBytes (word : UInt32) : List UInt8 :=
  [(word >>> 24).toUInt8, (word >>> 16).toUInt8, (word >>> 8).toUInt8, word.toUInt8]

def digest (message : List UInt8) : List UInt8 :=
  let padded := words (pad message)
  let w := (blocks (padded.length / 16) padded).foldl compress initial
  [w.a, w.b, w.c, w.d, w.e, w.f, w.g, w.h].flatMap wordBytes

/-- The digest in lower-case hexadecimal. -/
def hex (message : List UInt8) : String := String.ofList (Hex.encode (digest message))

end Vpsman.Lib.Sha256
