import ChallengeLogin.Proofs.Text.Utf8
import ChallengeLogin.Text.Charset.Basic

namespace ChallengeLogin.Text

theorem Utf8.decodeLossy_encode (cs : List Char) : decodeLossy (encode cs) = cs := by
  rw [decodeLossy, symbols_encode, List.map_map]
  exact List.map_id cs

namespace Charset

section Marks

variable {cs : List Char} {rest : Bytes}

-- The character of the byte order mark
def mark : Char := '\uFEFF'

-- In UTF-8 the bytes of the mark are the character.
theorem head_of_mark (h : Utf8.encode cs = 0xEF :: 0xBB :: 0xBF :: rest) :
    cs.head? = some mark := by
  have hsymbols := Utf8.symbols_encode cs
  have hmark : Utf8.symbols (0xEF :: 0xBB :: 0xBF :: rest) = some mark :: Utf8.run none rest := rfl
  rw [h, hmark] at hsymbols
  cases cs with
  | nil => cases hsymbols
  | cons c cs => exact congrArg some (Option.some.inj (List.cons.inj hsymbols).1).symm

-- No text is written with a byte in front that starts no character.
theorem encode_ne_of_invalid {b : UInt8} (hb : Utf8.lead b = .invalid) :
    Utf8.encode cs ≠ b :: rest := by
  intro h
  have hsymbols := Utf8.symbols_encode cs
  have hgap : Utf8.symbols (b :: rest) = none :: Utf8.run none rest := by
    simp only [Utf8.symbols, Utf8.run, hb]
  rw [h, hgap] at hsymbols
  cases cs with
  | nil => cases hsymbols
  | cons c cs => cases (List.cons.inj hsymbols).1

theorem byteOrderMark?_encode (h : cs.head? ≠ some mark) :
    byteOrderMark? (Utf8.encode cs) = none := by
  unfold byteOrderMark?
  split
  · rename_i hbytes
    exact absurd (head_of_mark hbytes) h
  · rename_i hbytes
    exact absurd hbytes (encode_ne_of_invalid rfl)
  · rename_i hbytes
    exact absurd hbytes (encode_ne_of_invalid rfl)
  · rfl

-- By its charset a text in UTF-8 is read as it was.
theorem decodeMarked_encode [Decoders] (h : cs.head? ≠ some mark) :
    Charset.utf8.decodeMarked (Utf8.encode cs) = cs := by
  rw [decodeMarked, byteOrderMark?_encode h]
  exact Utf8.decodeLossy_encode cs

-- A byte order mark in front of bytes, and the charset that it stands for
inductive Marked : Bytes → Charset → Bytes → Prop
  | utf8 (rest : Bytes) : Marked (0xEF :: 0xBB :: 0xBF :: rest) .utf8 rest
  | bigEndian (rest : Bytes) : Marked (0xFE :: 0xFF :: rest) (.utf16 true) rest
  | littleEndian (rest : Bytes) : Marked (0xFF :: 0xFE :: rest) (.utf16 false) rest

theorem byteOrderMark?_eq_some_iff {bs : Bytes} {charset : Charset} :
    byteOrderMark? bs = some (charset, rest) ↔ Marked bs charset rest := by
  constructor
  · intro h
    unfold byteOrderMark? at h
    split at h
    · cases h
      exact .utf8 rest
    · cases h
      exact .bigEndian rest
    · cases h
      exact .littleEndian rest
    · cases h
  · intro h
    cases h <;> rfl

theorem byteOrderMark?_eq_none_iff {bs : Bytes} :
    byteOrderMark? bs = none ↔ ∀ charset rest, ¬Marked bs charset rest := by
  simp only [Option.eq_none_iff_forall_ne_some, ne_eq, Prod.forall, byteOrderMark?_eq_some_iff]

end Marks

section Plain

-- The charsets in which plain bytes are ASCII
def ExtendsAscii : Charset → Prop
  | .utf16 _ | .replacement => False
  | _ => True

theorem decodeLossy_of_ascii {bs : Bytes} (h : ∀ b ∈ bs, b.toNat < 0x80) :
    Utf8.decodeLossy bs = bs.map fun b => Char.ofNat b.toNat := by
  have hrun : Utf8.run none bs = bs.map fun b => some (Char.ofNat b.toNat) := by
    induction bs with
    | nil => rfl
    | cons b rest ih =>
      have hlead : Utf8.lead b = .whole (Char.ofNat b.toNat) := by
        simp only [Utf8.lead, if_pos (h b List.mem_cons_self)]
      rw [Utf8.run_whole hlead, ih fun c hc => h c (List.mem_cons_of_mem b hc), List.map_cons]
  rw [Utf8.decodeLossy, Utf8.symbols, hrun, List.map_map]
  rfl

-- Whatever the tables of the charsets of several bytes are, plain bytes do not depend on them.
theorem decode_of_plain [Decoders] {charset : Charset} (hcharset : charset.ExtendsAscii)
    {bs : Bytes} (h : ∀ b ∈ bs, isPlain b = true) :
    charset.decode bs = bs.map fun b => Char.ofNat b.toNat := by
  have hascii : ∀ b ∈ bs, b.toNat < 0x80 := fun b hb => Decoders.lt_of_isPlain (h b hb)
  cases charset with
  | utf8 => exact decodeLossy_of_ascii hascii
  | utf16 => exact hcharset.elim
  | singleByte upper =>
    refine List.map_congr_left fun b hb => ?_
    rw [UpperHalf.char, if_pos (hascii b hb)]
  | multibyte charset =>
    rw [decode]
    induction bs with
    | nil => exact Decoders.decode_nil charset
    | cons b rest ih =>
      rw [Decoders.decode_cons charset b rest (h b List.mem_cons_self), List.map_cons,
        ih (fun c hc => h c (List.mem_cons_of_mem b hc))
          fun c hc => hascii c (List.mem_cons_of_mem b hc)]
  | userDefined =>
    refine List.map_congr_left fun b hb => ?_
    rw [userDefinedChar, if_pos (hascii b hb)]
  | replacement => exact hcharset.elim

end Plain

section Labels

-- The labels of UTF-8
def utf8Labels : List String :=
  ["unicode-1-1-utf-8", "unicode11utf8", "unicode20utf8", "utf-8", "utf8", "x-unicode20utf8"]

theorem lookup_utf8Labels : ∀ name ∈ utf8Labels, labels.lookup name = some .utf8 := by
  simp only [utf8Labels, List.forall_mem_cons]
  exact ⟨rfl, rfl, rfl, rfl, rfl, rfl, nofun⟩

theorem ofLabel?_of_mem {label : List Char}
    (h : String.ofList ((trim isLabelSpace label).map lower) ∈ utf8Labels) :
    ofLabel? label = some .utf8 :=
  lookup_utf8Labels _ h

end Labels

end Charset

end ChallengeLogin.Text
