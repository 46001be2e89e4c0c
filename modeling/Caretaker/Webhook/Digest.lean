import Caretaker.Text.Digits

/-!
# Key fingerprints

A key is never shown in a log.  Its fingerprint is: the first twelve hexadecimal
digits of its SHA-256 digest.
-/

namespace Caretaker.Digest

open Caretaker.Text

/-- The first 32 bits of the fractional parts of the cube roots of the first 64
primes. -/
def roundConstants : List UInt32 :=
  [0x428a2f98, 0x71374491, 0xb5c0fbcf, 0xe9b5dba5, 0x3956c25b, 0x59f111f1, 0x923f82a4, 0xab1c5ed5,
   0xd807aa98, 0x12835b01, 0x243185be, 0x550c7dc3, 0x72be5d74, 0x80deb1fe, 0x9bdc06a7, 0xc19bf174,
   0xe49b69c1, 0xefbe4786, 0x0fc19dc6, 0x240ca1cc, 0x2de92c6f, 0x4a7484aa, 0x5cb0a9dc, 0x76f988da,
   0x983e5152, 0xa831c66d, 0xb00327c8, 0xbf597fc7, 0xc6e00bf3, 0xd5a79147, 0x06ca6351, 0x14292967,
   0x27b70a85, 0x2e1b2138, 0x4d2c6dfc, 0x53380d13, 0x650a7354, 0x766a0abb, 0x81c2c92e, 0x92722c85,
   0xa2bfe8a1, 0xa81a664b, 0xc24b8b70, 0xc76c51a3, 0xd192e819, 0xd6990624, 0xf40e3585, 0x106aa070,
   0x19a4c116, 0x1e376c08, 0x2748774c, 0x34b0bcb5, 0x391c0cb3, 0x4ed8aa4a, 0x5b9cca4f, 0x682e6ff3,
   0x748f82ee, 0x78a5636f, 0x84c87814, 0x8cc70208, 0x90befffa, 0xa4506ceb, 0xbef9a3f7, 0xc67178f2]

/-- The eight words of a digest in progress. -/
structure Words where
  a : UInt32
  b : UInt32
  c : UInt32
  d : UInt32
  e : UInt32
  f : UInt32
  g : UInt32
  h : UInt32

/-- The words before the first block. -/
def Words.start : Words :=
  ⟨0x6a09e667, 0xbb67ae85, 0x3c6ef372, 0xa54ff53a, 0x510e527f, 0x9b05688c, 0x1f83d9ab, 0x5be0cd19⟩

/-- Turn a word to the right. -/
def rotate (x : UInt32) (n : UInt32) : UInt32 :=
  (x >>> n) ||| (x <<< (32 - n))

/-- Extend a schedule, held in reverse, by `count` words. -/
def extend (reversed : List UInt32) : Nat → List UInt32
  | 0 => reversed
  | count + 1 =>
      let word (back : Nat) : UInt32 := reversed.getD (back - 1) 0
      let s0 := rotate (word 15) 7 ^^^ rotate (word 15) 18 ^^^ (word 15 >>> 3)
      let s1 := rotate (word 2) 17 ^^^ rotate (word 2) 19 ^^^ (word 2 >>> 10)
      extend ((word 16 + s0 + word 7 + s1) :: reversed) count

/-- One round. -/
def Words.round (w : Words) (constant word : UInt32) : Words :=
  let s1 := rotate w.e 6 ^^^ rotate w.e 11 ^^^ rotate w.e 25
  let choice := (w.e &&& w.f) ^^^ ((~~~ w.e) &&& w.g)
  let t1 := w.h + s1 + choice + constant + word
  let s0 := rotate w.a 2 ^^^ rotate w.a 13 ^^^ rotate w.a 22
  let majority := (w.a &&& w.b) ^^^ (w.a &&& w.c) ^^^ (w.b &&& w.c)
  ⟨t1 + s0 + majority, w.a, w.b, w.c, w.d + t1, w.e, w.f, w.g⟩

/-- Add two digests word by word. -/
def Words.add (v w : Words) : Words :=
  ⟨v.a + w.a, v.b + w.b, v.c + w.c, v.d + w.d, v.e + w.e, v.f + w.f, v.g + w.g, v.h + w.h⟩

/-- One block of sixteen words. -/
def Words.block (w : Words) (words : List UInt32) : Words :=
  let schedule := (extend words.reverse 48).reverse
  w.add ((roundConstants.zip schedule).foldl (fun state pair => state.round pair.1 pair.2) w)

/-- Words of four bytes, most significant first. -/
def wordsOfBytes : List UInt8 → List UInt32
  | a :: b :: c :: d :: rest =>
      ((a.toUInt32 <<< 24) ||| (b.toUInt32 <<< 16) ||| (c.toUInt32 <<< 8) ||| d.toUInt32) ::
        wordsOfBytes rest
  | _ => []

/-- The bytes of a message, a one bit, zeros, and the length in bits. -/
def pad (message : List UInt8) : List UInt8 :=
  let size := message.length
  let zeros := (119 - size % 64) % 64
  let length := (List.range 8).map fun i => (size * 8 / Nat.pow 2 (8 * (7 - i))).toUInt8
  message ++ 128 :: List.replicate zeros 0 ++ length

/-- Work through blocks of sixteen words, at most `fuel` of them. -/
def Words.blocks (w : Words) (words : List UInt32) : Nat → Words
  | 0 => w
  | fuel + 1 =>
      if words.isEmpty then w else (w.block (words.take 16)).blocks (words.drop 16) fuel

/-- The digest of a message in hexadecimal digits. -/
def sha256 (message : List UInt8) : List Char :=
  let words := wordsOfBytes (pad message)
  let w := Words.start.blocks words words.length
  [w.a, w.b, w.c, w.d, w.e, w.f, w.g, w.h].flatMap fun word => fixedDigits 16 8 word.toNat

/-- The fingerprint of a key. -/
def fingerprint (key : String) : String :=
  String.ofList ((sha256 key.toUTF8.toList).take 12)

end Caretaker.Digest
