import ChallengeLogin.Text.Utf8

namespace ChallengeLogin.Text.Charset

-- The charsets of several bytes a character
inductive Multibyte where
  | shiftJis
  | eucJp
  | iso2022Jp
  | eucKr
  | gbk
  | gb18030
  | big5
deriving DecidableEq, Repr

-- Holds of the ASCII bytes that none of these charsets takes for a shift between its tables.
def isPlain (b : UInt8) : Bool :=
  b.toNat < 0x80 && b != 0x0E && b != 0x0F && b != 0x1B

-- What bytes spell in these charsets. Their tables, of tens of thousands of characters, are left to
-- whoever runs the program. A plain byte that no other one has come before is itself in all of
-- them.
class Decoders where
  decode : Multibyte → Bytes → List Char
  decode_nil (charset : Multibyte) : decode charset [] = []
  decode_cons (charset : Multibyte) (b : UInt8) (rest : Bytes) (h : isPlain b = true) :
    decode charset (b :: rest) = Char.ofNat b.toNat :: decode charset rest

namespace Decoders

def single (b : UInt8) : Char :=
  if b.toNat < 0x80 then Char.ofNat b.toNat else Utf8.replacement

-- Reads ASCII and the pairs of bytes that a table knows; there is no character for anything else.
def readPairs (pair? : UInt8 → UInt8 → Option Char) : Bytes → List Char
  | [] => []
  | [b] => [single b]
  | b :: c :: rest =>
    if b.toNat < 0x80 then single b :: readPairs pair? (c :: rest)
    else (pair? b c).getD Utf8.replacement :: readPairs pair? rest

theorem readPairs_cons {b : UInt8} (h : b.toNat < 0x80) (pair? : UInt8 → UInt8 → Option Char)
    (rest : Bytes) :
    readPairs pair? (b :: rest) = Char.ofNat b.toNat :: readPairs pair? rest := by
  cases rest with
  | nil => simp only [readPairs, single, if_pos h]
  | cons c rest => simp only [readPairs, single, if_pos h]

theorem lt_of_isPlain {b : UInt8} (h : isPlain b = true) : b.toNat < 0x80 := by
  simp only [isPlain, Bool.and_eq_true, decide_eq_true_eq] at h
  exact h.1.1.1

-- The decoders that know the characters of a table of pairs.
@[reducible] def ofPairs (pair? : Multibyte → UInt8 → UInt8 → Option Char) : Decoders where
  decode charset := readPairs (pair? charset)
  decode_nil _ := rfl
  decode_cons charset _ rest h := readPairs_cons (lt_of_isPlain h) (pair? charset) rest

-- The decoders that know ASCII alone.
@[reducible] def ascii : Decoders :=
  ofPairs fun _ _ _ => none

end Decoders

end ChallengeLogin.Text.Charset
