import Mathlib.Data.List.Forall2
import Mathlib.Data.List.Induction
import Mathlib.Data.Nat.Digits.Defs
import ChallengeLogin.Proofs.Json.Grammar
import ChallengeLogin.Proofs.Text.Spelling
import ChallengeLogin.Text.Octets

namespace ChallengeLogin.Text.Hex

open ChallengeLogin.Json (HexDigit)

-- The number that digits stand for
def Numeral (cs : List Char) (n : Nat) : Prop :=
  ∃ ds, List.Forall₂ HexDigit cs ds ∧ Nat.ofDigits 16 ds.reverse = n

-- A text that is not hexadecimal: its bytes do not come in pairs, or one of them is no digit.
def NotHex (cs : List Char) : Prop :=
  (Utf8.encode cs).length % 2 = 1 ∨ ∃ b ∈ Utf8.encode cs, ¬IsDigit b

section Digits

variable {c : Char} {b : UInt8} {v w : Nat}

instance (c : Char) (v : Nat) : Decidable (HexDigit c v) :=
  inferInstanceAs (Decidable (_ ∨ _))

theorem value?_of_hexDigit (h : HexDigit c v) :
    c.toNat < 0x80 ∧ value? (UInt8.ofNat c.toNat) = some v := by
  have hlower : ∀ i : Fin 16, ("0123456789abcdef".toList[i]).toNat < 0x80 ∧
      value? (UInt8.ofNat ("0123456789abcdef".toList[i]).toNat) = some i.val := by decide
  have hupper : ∀ i : Fin 16, ("0123456789ABCDEF".toList[i]).toNat < 0x80 ∧
      value? (UInt8.ofNat ("0123456789ABCDEF".toList[i]).toNat) = some i.val := by decide
  rcases h with h | h <;> obtain ⟨hv, rfl⟩ := List.getElem?_eq_some_iff.mp h
  · exact hlower ⟨v, hv⟩
  · exact hupper ⟨v, hv⟩

theorem hexDigit_of_value (hc : c.toNat < 0x80) (h : value? (UInt8.ofNat c.toNat) = some v) :
    HexDigit c v := by
  have hall : ∀ n < 0x80, (value? (UInt8.ofNat n)).all
      (fun v => decide (HexDigit (Char.ofNat n) v)) = true := by decide +kernel
  have hdigit := hall c.toNat hc
  rw [h, Option.all_some, Char.ofNat_toNat] at hdigit
  exact of_decide_eq_true hdigit

theorem hexDigit_of_lower (hc : c.toNat < 0x80) (hv : v < 16) (h : c.toLower = digit v) :
    HexDigit c v := by
  refine hexDigit_of_value hc ((value?_iff hv).mpr ?_)
  rw [lowerChar_ascii hc, h]

theorem hexDigit_unique (h : HexDigit c v) (h' : HexDigit c w) : v = w :=
  Option.some.inj ((value?_of_hexDigit h).2.symm.trans (value?_of_hexDigit h').2)

theorem isDigit_of_value (h : value? b = some v) : IsDigit b := by
  by_contra hnot
  rw [value?_of_not_isDigit hnot] at h
  cases h

end Digits

section Numerals

variable {cs : List Char} {ds es : List Nat} {bs : Bytes} {n m : Nat}

theorem digits_unique (h : List.Forall₂ HexDigit cs ds) (h' : List.Forall₂ HexDigit cs es) :
    ds = es := by
  induction h generalizing es with
  | nil =>
    cases h'
    rfl
  | cons hd _ ih =>
    cases h' with
    | cons he h' => rw [hexDigit_unique hd he, ih h']

theorem Numeral.unique (h : Numeral cs n) (h' : Numeral cs m) : n = m := by
  obtain ⟨ds, hds, rfl⟩ := h
  obtain ⟨es, hes, rfl⟩ := h'
  rw [digits_unique hds hes]

-- The two digits of each byte
def nibbles (bs : Bytes) : List Nat :=
  bs.flatMap fun b => [b.toNat / 16, b.toNat % 16]

-- By induction on the bytes from the last one on
theorem ofDigits_nibbles (bs : Bytes) : Nat.ofDigits 16 (nibbles bs).reverse = natOfBytes bs := by
  induction bs using List.reverseRecOn with
  | nil => rfl
  | append_singleton bs b ih =>
    have hsplit : (nibbles (bs ++ [b])).reverse =
        b.toNat % 16 :: b.toNat / 16 :: (nibbles bs).reverse := by
      simp [nibbles]
    rw [hsplit, Nat.ofDigits_cons, Nat.ofDigits_cons, ih, natOfBytes_append_singleton]
    have hbyte := Nat.div_add_mod b.toNat 16
    omega

-- By induction on the bytes: two digits for each
theorem forall₂_of_lower (h : cs.map Char.toLower = encode bs) :
    List.Forall₂ HexDigit cs (nibbles bs) := by
  have hascii := ascii_of_lower h
  induction bs generalizing cs with
  | nil =>
    rw [List.map_eq_nil_iff.mp h]
    exact .nil
  | cons b bs ih =>
    rw [encode_cons] at h
    obtain ⟨high, rest, rfl, hhigh, h⟩ := List.map_eq_cons_iff.mp h
    obtain ⟨low, rest, rfl, hlow, h⟩ := List.map_eq_cons_iff.mp h
    obtain ⟨hfirst, hsecond, hrest⟩ :=
      (List.forall_mem_cons.mp hascii).imp_right List.forall_mem_cons.mp
    exact .cons (hexDigit_of_lower hfirst (div_lt_sixteen b) hhigh) <|
      .cons (hexDigit_of_lower hsecond (mod_lt_sixteen b) hlow) (ih h hrest)

theorem numeral_of_lower (h : cs.map Char.toLower = encode bs) : Numeral cs (natOfBytes bs) :=
  ⟨nibbles bs, forall₂_of_lower h, ofDigits_nibbles bs⟩

theorem Numeral.digit (h : Numeral cs n) : ∀ c ∈ cs, ∃ v, HexDigit c v := by
  obtain ⟨ds, hds, -⟩ := h
  induction hds with
  | nil => exact fun c hc => absurd hc List.not_mem_nil
  | cons hd _ ih => exact List.forall_mem_cons.mpr ⟨⟨_, hd⟩, ih⟩

theorem Numeral.bytes (h : Numeral cs n) :
    (Utf8.encode cs).length = cs.length ∧ ∀ b ∈ Utf8.encode cs, IsDigit b := by
  have hdigit := h.digit
  have hascii : ∀ c ∈ cs, c.toNat < 0x80 := fun c hc => by
    obtain ⟨v, hv⟩ := hdigit c hc
    exact (value?_of_hexDigit hv).1
  rw [Utf8.encode_ascii hascii]
  refine ⟨List.length_map _, fun b hb => ?_⟩
  obtain ⟨c, hc, rfl⟩ := List.mem_map.mp hb
  obtain ⟨v, hv⟩ := hdigit c hc
  exact isDigit_of_value (value?_of_hexDigit hv).2

theorem Numeral.not_notHex (h : Numeral cs n) (heven : cs.length % 2 = 0) : ¬NotHex cs := by
  obtain ⟨hlength, hall⟩ := h.bytes
  rintro (hodd | ⟨b, hb, hnot⟩)
  · omega
  · exact hnot (hall b hb)

end Numerals

section Texts

variable {text : String} {bs : Bytes} {message : String} {n : Nat}

theorem Misspells.notHex (h : Misspells text message) : NotHex text.toList := by
  cases h with
  | odd hlength => exact .inl hlength
  | @digit before after b _ hsplit _ hb =>
    refine .inr ⟨b, ?_, hb⟩
    have hbytes : Utf8.encode text.toList = before ++ b :: after := hsplit
    rw [hbytes]
    exact List.mem_append_right _ List.mem_cons_self

-- What is hexadecimal for bytes is a numeral with two digits a byte.
theorem Spells.numeral (h : Spells text bs) :
    Numeral text.toList (natOfBytes bs) ∧ text.toList.length = 2 * bs.length := by
  refine ⟨numeral_of_lower h, ?_⟩
  rw [← length_of_encode, ← h, List.length_map]

theorem Spells.not_notHex (h : Spells text bs) : ¬NotHex text.toList := by
  obtain ⟨hnumeral, hlength⟩ := h.numeral
  exact hnumeral.not_notHex (by omega)

end Texts

end ChallengeLogin.Text.Hex
