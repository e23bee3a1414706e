namespace ChallengeLogin.Text

abbrev Bytes := List UInt8

-- A character, or a gap where the bytes spell none
abbrev Symbols := List (Option Char)

namespace Utf8

-- The one to four bytes of a character.
def encodeChar (c : Char) : Bytes :=
  let n := c.toNat
  if n < 0x80 then [UInt8.ofNat n]
  else if n < 0x800 then [UInt8.ofNat (0xC0 + n / 64), UInt8.ofNat (0x80 + n % 64)]
  else if n < 0x10000 then
    [UInt8.ofNat (0xE0 + n / 4096), UInt8.ofNat (0x80 + n / 64 % 64), UInt8.ofNat (0x80 + n % 64)]
  else
    [UInt8.ofNat (0xF0 + n / 262144), UInt8.ofNat (0x80 + n / 4096 % 64),
      UInt8.ofNat (0x80 + n / 64 % 64), UInt8.ofNat (0x80 + n % 64)]

def encode (cs : List Char) : Bytes :=
  cs.flatMap encodeChar

-- The bytes of a text.
def bytesOf (s : String) : Bytes :=
  encode s.toList

@[simp] theorem encode_nil : encode [] = [] := rfl

@[simp] theorem encode_cons (c : Char) (cs : List Char) :
    encode (c :: cs) = encodeChar c ++ encode cs := rfl

@[simp] theorem encode_append (a b : List Char) : encode (a ++ b) = encode a ++ encode b := by
  simp [encode, List.flatMap_append]

-- How many bytes a symbol stands for. A gap is at least one byte.
def width : Option Char → Nat
  | some c => (encodeChar c).length
  | none => 1

def totalWidth (s : Symbols) : Nat :=
  s.foldl (fun n a => n + width a) 0

-- A character whose lead byte has been read. `more` bytes are still to come, the next of them
-- between `low` and `high`. The bounds exclude overlong forms, surrogates and values past the last
-- code point, so that a character that is finished is always a valid one.
structure Pending where
  more : Nat
  low : Nat
  high : Nat
  value : Nat

-- What a lead byte announces: a whole character, the rest of one, or nothing.
inductive Lead where
  | whole (c : Char)
  | pending (p : Pending)
  | invalid

def lead (b : UInt8) : Lead :=
  let n := b.toNat
  if n < 0x80 then .whole (Char.ofNat n)
  else if n < 0xC2 then .invalid
  else if n < 0xE0 then .pending ⟨1, 0x80, 0xBF, n - 0xC0⟩
  else if n = 0xE0 then .pending ⟨2, 0xA0, 0xBF, 0⟩
  else if n = 0xED then .pending ⟨2, 0x80, 0x9F, 0xD⟩
  else if n < 0xF0 then .pending ⟨2, 0x80, 0xBF, n - 0xE0⟩
  else if n = 0xF0 then .pending ⟨3, 0x90, 0xBF, 0⟩
  else if n < 0xF4 then .pending ⟨3, 0x80, 0xBF, n - 0xF0⟩
  else if n = 0xF4 then .pending ⟨3, 0x80, 0x8F, 4⟩
  else .invalid

-- Reads on from a state between two bytes. A byte that does not continue the pending character
-- closes a gap and is then read as a lead byte itself.
def run : Option Pending → Bytes → Symbols
  | none, [] => []
  | some _, [] => [none]
  | none, b :: rest =>
    match lead b with
    | .whole c => some c :: run none rest
    | .pending p => run (some p) rest
    | .invalid => none :: run none rest
  | some p, b :: rest =>
    if p.low ≤ b.toNat ∧ b.toNat ≤ p.high then
      let value := p.value * 64 + b.toNat % 64
      if p.more = 1 then some (Char.ofNat value) :: run none rest
      else run (some ⟨p.more - 1, 0x80, 0xBF, value⟩) rest
    else
      match lead b with
      | .whole c => none :: some c :: run none rest
      | .pending q => none :: run (some q) rest
      | .invalid => none :: none :: run none rest

-- The characters of a byte string, with a gap for each malformed run.
def symbols (bs : Bytes) : Symbols :=
  run none bs

def replacement : Char := '\uFFFD'

-- The text of a byte string, a replacement character in each gap.
def decodeLossy (bs : Bytes) : List Char :=
  (symbols bs).map (·.getD replacement)

-- The text of a byte string that is well-formed throughout.
def decode? (bs : Bytes) : Option (List Char) :=
  (symbols bs).mapM id

end Utf8

end ChallengeLogin.Text
