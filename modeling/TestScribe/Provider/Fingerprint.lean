/-!
Fingerprints of prompts: short, stable, and new whenever the format of the answer is.  They come
from the 256-bit secure hash: padding to blocks of 64 octets, 64 rounds of compression a block,
and the state as 32 octets.
-/

namespace TestScribe.Digest

/-- The first 32 bits of the fractional parts of the cube roots of the first 64
primes. -/
def roundConstants : List UInt32 := [
  0x428a2f98, 0x71374491, 0xb5c0fbcf, 0xe9b5dba5, 0x3956c25b, 0x59f111f1, 0x923f82a4,
  0xab1c5ed5, 0xd807aa98, 0x12835b01, 0x243185be, 0x550c7dc3, 0x72be5d74, 0x80deb1fe,
  0x9bdc06a7, 0xc19bf174, 0xe49b69c1, 0xefbe4786, 0x0fc19dc6, 0x240ca1cc, 0x2de92c6f,
  0x4a7484aa, 0x5cb0a9dc, 0x76f988da, 0x983e5152, 0xa831c66d, 0xb00327c8, 0xbf597fc7,
  0xc6e00bf3, 0xd5a79147, 0x06ca6351, 0x14292967, 0x27b70a85, 0x2e1b2138, 0x4d2c6dfc,
  0x53380d13, 0x650a7354, 0x766a0abb, 0x81c2c92e, 0x92722c85, 0xa2bfe8a1, 0xa81a664b,
  0xc24b8b70, 0xc76c51a3, 0xd192e819, 0xd6990624, 0xf40e3585, 0x106aa070, 0x19a4c116,
  0x1e376c08, 0x2748774c, 0x34b0bcb5, 0x391c0cb3, 0x4ed8aa4a, 0x5b9cca4f, 0x682e6ff3,
  0x748f82ee, 0x78a5636f, 0x84c87814, 0x8cc70208, 0x90befffa, 0xa4506ceb, 0xbef9a3f7,
  0xc67178f2]

structure State where
  a : UInt32
  b : UInt32
  c : UInt32
  d : UInt32
  e : UInt32
  f : UInt32
  g : UInt32
  h : UInt32

/-- The state before the first block: the first 32 bits of the fractional parts of
the square roots of the first eight primes. -/
def State.initial : State :=
  ⟨0x6a09e667, 0xbb67ae85, 0x3c6ef372, 0xa54ff53a, 0x510e527f, 0x9b05688c, 0x1f83d9ab,
    0x5be0cd19⟩

def rotate (word : UInt32) (count : UInt32) : UInt32 :=
  (word >>> count) ||| (word <<< (32 - count))

def State.round (state : State) (word constant : UInt32) : State :=
  let mixE := rotate state.e 6 ^^^ rotate state.e 11 ^^^ rotate state.e 25
  let chosen := (state.e &&& state.f) ^^^ (~~~state.e &&& state.g)
  let first := state.h + mixE + chosen + constant + word
  let mixA := rotate state.a 2 ^^^ rotate state.a 13 ^^^ rotate state.a 22
  let majority := (state.a &&& state.b) ^^^ (state.a &&& state.c) ^^^ (state.b &&& state.c)
  ⟨first + mixA + majority, state.a, state.b, state.c, state.d + first, state.e, state.f,
    state.g⟩

def State.add (left right : State) : State :=
  ⟨left.a + right.a, left.b + right.b, left.c + right.c, left.d + right.d,
    left.e + right.e, left.f + right.f, left.g + right.g, left.h + right.h⟩

/-- The next schedule word after sixteen. -/
def nextWord (window : List UInt32) : UInt32 :=
  let w2 := (window[14]?).getD 0
  let w7 := (window[9]?).getD 0
  let w15 := (window[1]?).getD 0
  let w16 := (window[0]?).getD 0
  let small0 := rotate w15 7 ^^^ rotate w15 18 ^^^ (w15 >>> 3)
  let small1 := rotate w2 17 ^^^ rotate w2 19 ^^^ (w2 >>> 10)
  w16 + small0 + w7 + small1

/-- Runs one round for every constant; the window holds the next sixteen schedule
words. -/
def runRounds (state : State) (window : List UInt32) : List UInt32 → State
  | [] => state
  | constant :: constants =>
      match window with
      | [] => state
      | word :: rest =>
          runRounds (state.round word constant) (rest ++ [nextWord (word :: rest)])
            constants

/-- The words of a block, four octets each, the highest first. -/
def wordsOf : List UInt8 → List UInt32
  | a :: b :: c :: d :: rest =>
      ((a.toUInt32 <<< 24) ||| (b.toUInt32 <<< 16) ||| (c.toUInt32 <<< 8) ||| d.toUInt32)
        :: wordsOf rest
  | _ => []

/-- The state after the words of a message, sixteen at a time, for `blocks` blocks. -/
def compress (state : State) (words : List UInt32) : Nat → State
  | 0 => state
  | blocks + 1 =>
      compress (state.add (runRounds state (words.take 16) roundConstants))
        (words.drop 16) blocks

/-- `count` octets of a number, the highest first. -/
def octets (count value : Nat) : List UInt8 :=
  (List.range count).map fun index => UInt8.ofNat (value / Nat.pow 256 (count - 1 - index))

/-- A message, a one bit, zeros, and the length of the message in bits, which fill
whole blocks. -/
def pad (message : List UInt8) : List UInt8 :=
  let zeros := (119 - message.length % 64) % 64
  message ++ 0x80 :: List.replicate zeros 0 ++ octets 8 (8 * message.length)

def secureWords (message : List UInt8) : List UInt32 :=
  let words := wordsOf (pad message)
  let state := compress State.initial words (words.length / 16)
  [state.a, state.b, state.c, state.d, state.e, state.f, state.g, state.h]

def secureHex (message : List UInt8) : List Char :=
  (secureWords message).flatMap fun word =>
    (octets 4 word.toNat).flatMap fun octet =>
      [Nat.digitChar (octet.toNat / 16), Nat.digitChar (octet.toNat % 16)]

def octetsOf (text : String) : List UInt8 := text.toList.flatMap String.utf8EncodeChar

end TestScribe.Digest

namespace TestScribe.Prompt

/-- The version of the format that answers have to follow. -/
def formatVersion : String := "v1-testgen-cases-json"

/-- The first twelve hexadecimal digits of the hash of version and prompt. -/
def fingerprint (prompt : String) : String :=
  String.ofList ((Digest.secureHex (Digest.octetsOf (formatVersion ++ prompt))).take 12)

end TestScribe.Prompt
