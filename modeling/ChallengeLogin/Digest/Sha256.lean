import ChallengeLogin.Text.Octets

namespace ChallengeLogin.Digest

open ChallengeLogin.Text

namespace Sha256

-- The fractional parts of the square roots of the first eight primes
def initial : List UInt32 :=
  [
    0x6a09e667, 0xbb67ae85, 0x3c6ef372, 0xa54ff53a, 0x510e527f, 0x9b05688c, 0x1f83d9ab, 0x5be0cd19
  ]

-- The fractional parts of the cube roots of the first sixty-four primes
def roundConstants : List UInt32 :=
  [
    0x428a2f98, 0x71374491, 0xb5c0fbcf, 0xe9b5dba5, 0x3956c25b, 0x59f111f1, 0x923f82a4, 0xab1c5ed5,
    0xd807aa98, 0x12835b01, 0x243185be, 0x550c7dc3, 0x72be5d74, 0x80deb1fe, 0x9bdc06a7, 0xc19bf174,
    0xe49b69c1, 0xefbe4786, 0x0fc19dc6, 0x240ca1cc, 0x2de92c6f, 0x4a7484aa, 0x5cb0a9dc, 0x76f988da,
    0x983e5152, 0xa831c66d, 0xb00327c8, 0xbf597fc7, 0xc6e00bf3, 0xd5a79147, 0x06ca6351, 0x14292967,
    0x27b70a85, 0x2e1b2138, 0x4d2c6dfc, 0x53380d13, 0x650a7354, 0x766a0abb, 0x81c2c92e, 0x92722c85,
    0xa2bfe8a1, 0xa81a664b, 0xc24b8b70, 0xc76c51a3, 0xd192e819, 0xd6990624, 0xf40e3585, 0x106aa070,
    0x19a4c116, 0x1e376c08, 0x2748774c, 0x34b0bcb5, 0x391c0cb3, 0x4ed8aa4a, 0x5b9cca4f, 0x682e6ff3,
    0x748f82ee, 0x78a5636f, 0x84c87814, 0x8cc70208, 0x90befffa, 0xa4506ceb, 0xbef9a3f7, 0xc67178f2
  ]

def rotateRight (x : UInt32) (n : UInt32) : UInt32 :=
  (x >>> n) ||| (x <<< (32 - n))

def word (a b c d : UInt8) : UInt32 :=
  (a.toUInt32 <<< 24) ||| (b.toUInt32 <<< 16) ||| (c.toUInt32 <<< 8) ||| d.toUInt32

def words : Bytes → List UInt32
  | a :: b :: c :: d :: rest => word a b c d :: words rest
  | _ => []

def wordBytes (w : UInt32) : Bytes :=
  [(w >>> 24).toUInt8, (w >>> 16).toUInt8, (w >>> 8).toUInt8, w.toUInt8]

-- The message with a one bit, zeros up to eight bytes short of a block, and its length in bits.
def pad (message : Bytes) : Bytes :=
  let zeros := (119 - message.length % 64) % 64
  message ++ 0x80 :: (List.replicate zeros 0 ++ bytesOfNat 8 (message.length * 8))

-- The next word of a schedule that is kept newest first
def nextWord (recent : List UInt32) : UInt32 :=
  let at' (i : Nat) : UInt32 := recent[i]?.getD 0
  let s₀ := rotateRight (at' 14) 7 ^^^ rotateRight (at' 14) 18 ^^^ (at' 14 >>> 3)
  let s₁ := rotateRight (at' 1) 17 ^^^ rotateRight (at' 1) 19 ^^^ (at' 1 >>> 10)
  at' 15 + s₀ + at' 6 + s₁

-- The sixty-four words of a block of sixteen
def schedule (block : List UInt32) : List UInt32 :=
  ((List.range 48).foldl (fun recent _ => nextWord recent :: recent) block.reverse).reverse

structure State where
  a : UInt32
  b : UInt32
  c : UInt32
  d : UInt32
  e : UInt32
  f : UInt32
  g : UInt32
  h : UInt32

def State.ofList (l : List UInt32) : State :=
  let at' (i : Nat) : UInt32 := l[i]?.getD 0
  ⟨at' 0, at' 1, at' 2, at' 3, at' 4, at' 5, at' 6, at' 7⟩

def State.toList (s : State) : List UInt32 :=
  [s.a, s.b, s.c, s.d, s.e, s.f, s.g, s.h]

def round (s : State) (k w : UInt32) : State :=
  let s₁ := rotateRight s.e 6 ^^^ rotateRight s.e 11 ^^^ rotateRight s.e 25
  let choice := (s.e &&& s.f) ^^^ (~~~s.e &&& s.g)
  let t₁ := s.h + s₁ + choice + k + w
  let s₀ := rotateRight s.a 2 ^^^ rotateRight s.a 13 ^^^ rotateRight s.a 22
  let majority := (s.a &&& s.b) ^^^ (s.a &&& s.c) ^^^ (s.b &&& s.c)
  ⟨t₁ + (s₀ + majority), s.a, s.b, s.c, s.d + t₁, s.e, s.f, s.g⟩

def compress (state : State) (block : List UInt32) : State :=
  let final := (roundConstants.zip (schedule block)).foldl (fun s kw => round s kw.1 kw.2) state
  State.ofList (List.zipWith (· + ·) state.toList final.toList)

-- Takes the words sixteen at a time
def compressAll (state : State) (ws : List UInt32) : State :=
  if ws.length < 16 then state
  else compressAll (compress state (ws.take 16)) (ws.drop 16)
termination_by ws.length
decreasing_by
  simp only [List.length_drop]
  omega

end Sha256

-- The thirty-two bytes of the digest.
def sha256 (message : Bytes) : Bytes :=
  (Sha256.compressAll (Sha256.State.ofList Sha256.initial)
    (Sha256.words (Sha256.pad message))).toList.flatMap Sha256.wordBytes

theorem sha256_length (message : Bytes) : (sha256 message).length = 32 := by
  simp [sha256, Sha256.State.toList, Sha256.wordBytes]

end ChallengeLogin.Digest
