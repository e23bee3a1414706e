import ChallengeLogin.Proofs.Text.Utf8
import ChallengeLogin.Text.Hex

namespace ChallengeLogin.Text.Hex

-- Holds of the digits that are written.
def isLowerDigit (c : Char) : Bool :=
  ('0' ≤ c && c ≤ '9') || ('a' ≤ c && c ≤ 'f')

section Digits

variable {n : Nat}

theorem isLowerDigit_digit (h : n < 16) : isLowerDigit (digit n) = true := by
  revert n
  decide

theorem toNat_digit_lt (h : n < 16) : (digit n).toNat < 0x80 := by
  revert n
  decide

theorem value?_digit (h : n < 16) : value? (UInt8.ofNat (digit n).toNat) = some n := by
  revert n
  decide

theorem readDigit_digit (h : n < 16) (position : Nat) :
    readDigit (UInt8.ofNat (digit n).toNat) position = .ok n := by
  simp only [readDigit, value?_digit h]

end Digits

section Bytes

-- The bytes of a written byte: those of its two digits
def digitBytes (b : UInt8) : Bytes :=
  [UInt8.ofNat (digit (b.toNat / 16)).toNat, UInt8.ofNat (digit (b.toNat % 16)).toNat]

theorem div_lt_sixteen (b : UInt8) : b.toNat / 16 < 16 := by
  have := b.toNat_lt
  omega

theorem mod_lt_sixteen (b : UInt8) : b.toNat % 16 < 16 :=
  Nat.mod_lt _ (by decide)

theorem encode_encodeByte (b : UInt8) : Utf8.encode (encodeByte b) = digitBytes b := by
  simp only [encodeByte, Utf8.encode_cons, Utf8.encode_nil, digitBytes,
    Utf8.encodeChar_ascii (toNat_digit_lt (div_lt_sixteen b)),
    Utf8.encodeChar_ascii (toNat_digit_lt (mod_lt_sixteen b)), List.cons_append, List.nil_append]

theorem bytesOf_encode (bs : Bytes) :
    Utf8.bytesOf (String.ofList (encode bs)) = bs.flatMap digitBytes := by
  unfold Utf8.bytesOf
  rw [String.toList_ofList]
  induction bs with
  | nil => rfl
  | cons b bs ih =>
    rw [encode, List.flatMap_cons, Utf8.encode_append, encode_encodeByte, ← encode, ih,
      List.flatMap_cons]

theorem length_flatMap_digitBytes (bs : Bytes) :
    (bs.flatMap digitBytes).length = 2 * bs.length := by
  induction bs with
  | nil => rfl
  | cons b bs ih =>
    simp only [List.flatMap_cons, List.length_append, ih, digitBytes, List.length_cons,
      List.length_nil]
    omega

theorem decodePairs_cons (b : UInt8) (rest : Bytes) (position : Nat) :
    decodePairs position (digitBytes b ++ rest) =
      (decodePairs (position + 2) rest).map (b :: ·) := by
  have hbyte : UInt8.ofNat (b.toNat / 16 * 16 + b.toNat % 16) = b := by
    rw [Nat.div_add_mod', UInt8.ofNat_toNat]
  simp only [digitBytes, List.cons_append, List.nil_append, decodePairs,
    readDigit_digit (div_lt_sixteen b), readDigit_digit (mod_lt_sixteen b), bind, Except.bind,
    pure, Except.pure, hbyte]
  cases decodePairs (position + 2) rest <;> rfl

theorem decodePairs_flatMap (bs : Bytes) (position : Nat) :
    decodePairs position (bs.flatMap digitBytes) = .ok bs := by
  induction bs generalizing position with
  | nil => rfl
  | cons b bs ih =>
    rw [List.flatMap_cons, decodePairs_cons, ih]
    rfl

theorem decode_encode (bs : Bytes) : decode (String.ofList (encode bs)) = .ok bs := by
  have heven : ¬2 * bs.length % 2 = 1 := by omega
  rw [decode, bytesOf_encode, decodeBytes, length_flatMap_digitBytes, if_neg heven,
    decodePairs_flatMap]

end Bytes

section Shape

theorem length_encode (bs : Bytes) : (String.ofList (encode bs)).length = 2 * bs.length := by
  rw [String.length_ofList]
  induction bs with
  | nil => rfl
  | cons b bs ih =>
    rw [encode, List.flatMap_cons, List.length_append, ← encode, ih, List.length_cons]
    simp only [encodeByte, List.length_cons, List.length_nil]
    omega

theorem isLowerDigit_of_mem_encode {bs : Bytes} {c : Char} (h : c ∈ encode bs) :
    isLowerDigit c = true := by
  obtain ⟨b, -, hc⟩ := List.mem_flatMap.mp h
  simp only [encodeByte, List.mem_cons, List.not_mem_nil, or_false] at hc
  rcases hc with rfl | rfl
  · exact isLowerDigit_digit (div_lt_sixteen b)
  · exact isLowerDigit_digit (mod_lt_sixteen b)

-- A text of so many lowercase digits
def LowerDigits (count : Nat) (text : String) : Prop :=
  text.length = count ∧ ∀ c ∈ text.toList, isLowerDigit c = true

theorem lowerDigits_encode {bs : Bytes} {count : Nat} (h : 2 * bs.length = count) :
    LowerDigits count (String.ofList (encode bs)) := by
  refine ⟨by rw [length_encode, h], fun c hc => ?_⟩
  rw [String.toList_ofList] at hc
  exact isLowerDigit_of_mem_encode hc

end Shape

end ChallengeLogin.Text.Hex
