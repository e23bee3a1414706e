import ChallengeLogin.Text.Utf8

namespace ChallengeLogin.Text.Hex

inductive Fault where
  | oddLength
  | invalidDigit (byte : UInt8) (position : Nat)
deriving DecidableEq, Repr

def digit (n : Nat) : Char :=
  if n < 10 then Char.ofNat (48 + n) else Char.ofNat (87 + n)

def encodeByte (b : UInt8) : List Char :=
  [digit (b.toNat / 16), digit (b.toNat % 16)]

def encode (bs : Bytes) : List Char :=
  bs.flatMap encodeByte

-- The value of a digit of either case.
def value? (b : UInt8) : Option Nat :=
  let n := b.toNat
  if 48 ≤ n ∧ n ≤ 57 then some (n - 48)
  else if 65 ≤ n ∧ n ≤ 70 then some (n - 55)
  else if 97 ≤ n ∧ n ≤ 102 then some (n - 87)
  else none

def readDigit (b : UInt8) (position : Nat) : Except Fault Nat :=
  match value? b with
  | some v => .ok v
  | none => .error (.invalidDigit b position)

-- Reads pairs of digits; `position` counts the bytes already read
def decodePairs (position : Nat) : Bytes → Except Fault Bytes
  | [] => .ok []
  | [_] => .error .oddLength
  | a :: b :: rest => do
    let high ← readDigit a position
    let low ← readDigit b (position + 1)
    let tail ← decodePairs (position + 2) rest
    return UInt8.ofNat (high * 16 + low) :: tail

def decodeBytes (bs : Bytes) : Except Fault Bytes :=
  if bs.length % 2 = 1 then .error .oddLength else decodePairs 0 bs

-- Reads a text as hexadecimal. Positions in faults count bytes of the text.
def decode (s : String) : Except Fault Bytes :=
  decodeBytes (Utf8.bytesOf s)

-- A byte of 0x80 and above shown as the Latin-1 character with its number
private def isPlain (n : Nat) : Bool :=
  (0x20 ≤ n && n < 0x7F) || (0xA1 ≤ n && n != 0xAD)

-- The least hexadecimal digits of a number below 256
private def shortHex (n : Nat) : List Char :=
  if n < 16 then [digit n] else [digit (n / 16), digit (n % 16)]

-- A byte as a quoted character, with an escape where it would not show.
def showByte (b : UInt8) : String :=
  let n := b.toNat
  let inner :=
    if n = 0 then "\\0"
    else if n = 9 then "\\t"
    else if n = 10 then "\\n"
    else if n = 13 then "\\r"
    else if n = 39 then "\\'"
    else if n = 92 then "\\\\"
    else if isPlain n then String.ofList [Char.ofNat n]
    else "\\u\x7b" ++ String.ofList (shortHex n) ++ "\x7d"
  "'" ++ inner ++ "'"

def Fault.message : Fault → String
  | .oddLength => "Odd number of digits"
  | .invalidDigit byte position =>
    "Invalid character " ++ showByte byte ++ " at position " ++ toString position

end ChallengeLogin.Text.Hex
