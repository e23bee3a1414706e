import ChallengeLogin.Text.Hex

namespace ChallengeLogin.Url

open ChallengeLogin.Text

namespace Percent

def isControl (c : Char) : Bool :=
  c.toNat < 0x20 || c.toNat == 0x7F

def controls (c : Char) : Bool :=
  isControl c || 0x7F < c.toNat

def fragmentSet (c : Char) : Bool :=
  controls c || c = ' ' || c = '"' || c = '<' || c = '>' || c.toNat == 0x60

def querySet (special : Bool) (c : Char) : Bool :=
  controls c || c = ' ' || c = '"' || c = '#' || c = '<' || c = '>' || (special && c = '\'')

def pathSet (c : Char) : Bool :=
  fragmentSet c || c = '#' || c = '?' || c = '^' || c = '\x7b' || c = '\x7d'

def userinfoSet (c : Char) : Bool :=
  pathSet c || c = '/' || c = ':' || c = ';' || c = '=' || c = '@' || c = '[' || c = '\\' ||
    c = ']' || c = '|'

def upperDigit (n : Nat) : Char :=
  if n < 10 then Char.ofNat (48 + n) else Char.ofNat (55 + n)

def encodeByte (b : UInt8) : List Char :=
  ['%', upperDigit (b.toNat / 16), upperDigit (b.toNat % 16)]

def encodeChar (set : Char → Bool) (c : Char) : List Char :=
  if set c then (Utf8.encodeChar c).flatMap encodeByte else [c]

-- The text with the characters of a set encoded.
def encode (set : Char → Bool) (cs : List Char) : List Char :=
  cs.flatMap (encodeChar set)

-- The bytes of an encoded text. A percent sign without two digits stands for itself.
def decode : Bytes → Bytes
  | [] => []
  | 0x25 :: a :: b :: rest =>
    match Hex.value? a, Hex.value? b with
    | some high, some low => UInt8.ofNat (high * 16 + low) :: decode rest
    | _, _ => 0x25 :: decode (a :: b :: rest)
  | c :: rest => c :: decode rest

end Percent

end ChallengeLogin.Url
