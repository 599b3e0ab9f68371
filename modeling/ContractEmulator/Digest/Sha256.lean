import ContractEmulator.Text.Hex

/-!
# SHA-256

The Secure Hash Algorithm with a digest of 256 bits: a message is padded to blocks of 64 bytes,
and each block stirs eight words of 32 bits through 64 rounds.

* `digest` is the byte string of the digest, `hexDigest` its lowercase hexadecimal text.
-/

namespace ContractEmulator.Sha256

/-- The first 32 bits of the fractional parts of the cube roots of the first 64 primes. -/
def roundConstants : List UInt32 :=
  [0x428a2f98, 0x71374491, 0xb5c0fbcf, 0xe9b5dba5, 0x3956c25b, 0x59f111f1, 0x923f82a4, 0xab1c5ed5,
   0xd807aa98, 0x12835b01, 0x243185be, 0x550c7dc3, 0x72be5d74, 0x80deb1fe, 0x9bdc06a7, 0xc19bf174,
   0xe49b69c1, 0xefbe4786, 0x0fc19dc6, 0x240ca1cc, 0x2de92c6f, 0x4a7484aa, 0x5cb0a9dc, 0x76f988da,
   0x983e5152, 0xa831c66d, 0xb00327c8, 0xbf597fc7, 0xc6e00bf3, 0xd5a79147, 0x06ca6351, 0x14292967,
   0x27b70a85, 0x2e1b2138, 0x4d2c6dfc, 0x53380d13, 0x650a7354, 0x766a0abb, 0x81c2c92e, 0x92722c85,
   0xa2bfe8a1, 0xa81a664b, 0xc24b8b70, 0xc76c51a3, 0xd192e819, 0xd6990624, 0xf40e3585, 0x106aa070,
   0x19a4c116, 0x1e376c08, 0x2748774c, 0x34b0bcb5, 0x391c0cb3, 0x4ed8aa4a, 0x5b9cca4f, 0x682e6ff3,
   0x748f82ee, 0x78a5636f, 0x84c87814, 0x8cc70208, 0x90befffa, 0xa4506ceb, 0xbef9a3f7, 0xc67178f2]

/-- The eight working words. -/
structure State where
  a : UInt32
  b : UInt32
  c : UInt32
  d : UInt32
  e : UInt32
  f : UInt32
  g : UInt32
  h : UInt32

/-- The first 32 bits of the fractional parts of the square roots of the first eight primes. -/
def State.initial : State :=
  ⟨0x6a09e667, 0xbb67ae85, 0x3c6ef372, 0xa54ff53a, 0x510e527f, 0x9b05688c, 0x1f83d9ab, 0x5be0cd19⟩

/-- Wordwise sum modulo 2^32. -/
def State.add (s t : State) : State :=
  ⟨s.a + t.a, s.b + t.b, s.c + t.c, s.d + t.d, s.e + t.e, s.f + t.f, s.g + t.g, s.h + t.h⟩

/-- The words in order. -/
def State.words (s : State) : List UInt32 := [s.a, s.b, s.c, s.d, s.e, s.f, s.g, s.h]

/-- Rotation to the right, for `0 < n < 32`. -/
def rotr (x : UInt32) (n : UInt32) : UInt32 := (x >>> n) ||| (x <<< (32 - n))

/-- One round with the message word `w` and the constant `k`. -/
def State.round (s : State) (k w : UInt32) : State :=
  let bigSigma1 := rotr s.e 6 ^^^ rotr s.e 11 ^^^ rotr s.e 25
  let choice := (s.e &&& s.f) ^^^ ((~~~ s.e) &&& s.g)
  let t1 := s.h + bigSigma1 + choice + k + w
  let bigSigma0 := rotr s.a 2 ^^^ rotr s.a 13 ^^^ rotr s.a 22
  let majority := (s.a &&& s.b) ^^^ (s.a &&& s.c) ^^^ (s.b &&& s.c)
  ⟨t1 + (bigSigma0 + majority), s.a, s.b, s.c, s.d + t1, s.e, s.f, s.g⟩

/-- The next word of the message schedule, from the sixteen words before it. -/
def nextWord (window : List UInt32) : UInt32 :=
  let at_ (i : Nat) : UInt32 := window.getD i 0
  let s0 := rotr (at_ 1) 7 ^^^ rotr (at_ 1) 18 ^^^ (at_ 1 >>> 3)
  let s1 := rotr (at_ 14) 17 ^^^ rotr (at_ 14) 19 ^^^ (at_ 14 >>> 10)
  at_ 0 + s0 + at_ 9 + s1

/-- Runs the rounds of `constants`; the head of `window` is the word of the next round. -/
def rounds : List UInt32 → List UInt32 → State → State
  | [], _, s => s
  | k :: constants, window, s =>
    rounds constants (window.tail ++ [nextWord window]) (s.round k (window.getD 0 0))

/-- The big-endian word of four bytes. -/
def word (b0 b1 b2 b3 : UInt8) : UInt32 :=
  (b0.toUInt32 <<< 24) ||| (b1.toUInt32 <<< 16) ||| (b2.toUInt32 <<< 8) ||| b3.toUInt32

/-- The big-endian bytes of a word. -/
def wordBytes (w : UInt32) : List UInt8 :=
  [(w >>> 24).toUInt8, (w >>> 16).toUInt8, (w >>> 8).toUInt8, w.toUInt8]

/-- The words of a byte string whose length is a multiple of four. -/
def words : List UInt8 → List UInt32
  | b0 :: b1 :: b2 :: b3 :: rest => word b0 b1 b2 b3 :: words rest
  | _ => []

/-- The eight big-endian bytes of the message length in bits. -/
def lengthBytes (bits : Nat) : List UInt8 :=
  (List.range 8).map fun i => UInt8.ofNat (bits >>> (8 * (7 - i)))

/-- The message, a one bit, zeros up to eight bytes short of a whole block, and the length. -/
def pad (message : List UInt8) : List UInt8 :=
  let zeros := (119 - message.length % 64) % 64
  message ++ 0x80 :: (List.replicate zeros 0 ++ lengthBytes (8 * message.length))

/-- Stirs in `blocks` blocks of sixteen words. -/
def compress : Nat → List UInt32 → State → State
  | 0, _, s => s
  | blocks + 1, ws, s =>
    compress blocks (ws.drop 16) (s.add (rounds roundConstants (ws.take 16) s))

/-- The digest of a message. -/
def digest (message : List UInt8) : List UInt8 :=
  let ws := words (pad message)
  (compress (ws.length / 16) ws .initial).words.flatMap wordBytes

/-- The digest in lowercase hexadecimal. -/
def hexDigest (message : List UInt8) : String := Hex.ofBytes (digest message)

end ContractEmulator.Sha256
