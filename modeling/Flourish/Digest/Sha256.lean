/-
This file computes the SHA-256 digest of octets.
-/

import Flourish.Text.Utf8
import Flourish.Text.Quoted

namespace Flourish.Digest

/-- The eight words that a digest is built up in. -/
structure State where
  a : UInt32
  b : UInt32
  c : UInt32
  d : UInt32
  e : UInt32
  f : UInt32
  g : UInt32
  h : UInt32

def initial : State :=
  ⟨0x6a09e667, 0xbb67ae85, 0x3c6ef372, 0xa54ff53a, 0x510e527f, 0x9b05688c, 0x1f83d9ab,
    0x5be0cd19⟩

def roundConstants : List UInt32 :=
  [0x428a2f98, 0x71374491, 0xb5c0fbcf, 0xe9b5dba5, 0x3956c25b, 0x59f111f1, 0x923f82a4, 0xab1c5ed5,
    0xd807aa98, 0x12835b01, 0x243185be, 0x550c7dc3, 0x72be5d74, 0x80deb1fe, 0x9bdc06a7, 0xc19bf174,
    0xe49b69c1, 0xefbe4786, 0x0fc19dc6, 0x240ca1cc, 0x2de92c6f, 0x4a7484aa, 0x5cb0a9dc, 0x76f988da,
    0x983e5152, 0xa831c66d, 0xb00327c8, 0xbf597fc7, 0xc6e00bf3, 0xd5a79147, 0x06ca6351, 0x14292967,
    0x27b70a85, 0x2e1b2138, 0x4d2c6dfc, 0x53380d13, 0x650a7354, 0x766a0abb, 0x81c2c92e, 0x92722c85,
    0xa2bfe8a1, 0xa81a664b, 0xc24b8b70, 0xc76c51a3, 0xd192e819, 0xd6990624, 0xf40e3585, 0x106aa070,
    0x19a4c116, 0x1e376c08, 0x2748774c, 0x34b0bcb5, 0x391c0cb3, 0x4ed8aa4a, 0x5b9cca4f, 0x682e6ff3,
    0x748f82ee, 0x78a5636f, 0x84c87814, 0x8cc70208, 0x90befffa, 0xa4506ceb, 0xbef9a3f7, 0xc67178f2]

def rotateRight (word amount : UInt32) : UInt32 :=
  (word >>> amount) ||| (word <<< (32 - amount))

def word (octets : Text.Octets) : UInt32 :=
  octets.foldl (fun value octet => (value <<< 8) ||| octet.toUInt32) 0

/-- The words of a block, four octets each. -/
def blockWords : Nat → Text.Octets → List UInt32
  | 0, _ => []
  | count + 1, octets => word (octets.take 4) :: blockWords count (octets.drop 4)

/-- The next schedule word from the last sixteen, newest first. -/
def scheduleWord (recent : List UInt32) : UInt32 :=
  let old := recent.getD 14 0
  let new := recent.getD 1 0
  let small := rotateRight old 7 ^^^ rotateRight old 18 ^^^ (old >>> 3)
  let large := rotateRight new 17 ^^^ rotateRight new 19 ^^^ (new >>> 10)
  recent.getD 15 0 + small + recent.getD 6 0 + large

/-- The schedule, newest word first, after more words. -/
def scheduled : Nat → List UInt32 → List UInt32
  | 0, words => words
  | count + 1, words => scheduled count (scheduleWord words :: words)

def round (state : State) (entry : UInt32 × UInt32) : State :=
  let sigma := rotateRight state.e 6 ^^^ rotateRight state.e 11 ^^^ rotateRight state.e 25
  let choice := (state.e &&& state.f) ^^^ (~~~state.e &&& state.g)
  let first := state.h + sigma + choice + entry.1 + entry.2
  let turned := rotateRight state.a 2 ^^^ rotateRight state.a 13 ^^^ rotateRight state.a 22
  let majority := (state.a &&& state.b) ^^^ (state.a &&& state.c) ^^^ (state.b &&& state.c)
  ⟨first + (turned + majority), state.a, state.b, state.c, state.d + first, state.e, state.f,
    state.g⟩

def absorb (state : State) (block : Text.Octets) : State :=
  let words := (scheduled 48 (blockWords 16 block).reverse).reverse
  let final := (List.zip roundConstants words).foldl round state
  ⟨state.a + final.a, state.b + final.b, state.c + final.c, state.d + final.d, state.e + final.e,
    state.f + final.f, state.g + final.g, state.h + final.h⟩

def bigEndian : Nat → Nat → Text.Octets
  | 0, _ => []
  | width + 1, value => bigEndian width (value / 256) ++ [(value % 256).toUInt8]

/-- The message, a one bit, zeros, and the number of its bits, in whole blocks of 64 octets. -/
def padded (message : Text.Octets) : Text.Octets :=
  let zeros := (119 - message.length % 64) % 64
  message ++ 0x80 :: List.replicate zeros 0 ++ bigEndian 8 (8 * message.length)

def blocks : Nat → Text.Octets → List Text.Octets
  | 0, _ => []
  | count + 1, octets => octets.take 64 :: blocks count (octets.drop 64)

/-- The digest of octets. -/
def sha256 (message : Text.Octets) : Text.Octets :=
  let full := padded message
  let state := (blocks (full.length / 64) full).foldl absorb initial
  [state.a, state.b, state.c, state.d, state.e, state.f, state.g, state.h].flatMap fun part =>
    bigEndian 4 part.toNat

/-- The digest in hexadecimal digits. -/
def sha256Text (message : Text.Octets) : Text :=
  (sha256 message).flatMap fun octet => Text.hexadecimal 2 octet.toNat

end Flourish.Digest
