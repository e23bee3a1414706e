import ChallengeLogin.Proofs.Text.Hex

namespace ChallengeLogin.Text.Hex

-- Holds of the bytes that are digits, of either case
def IsDigit (b : UInt8) : Prop :=
  48 ≤ b.toNat ∧ b.toNat ≤ 57 ∨ 65 ≤ b.toNat ∧ b.toNat ≤ 70 ∨ 97 ≤ b.toNat ∧ b.toNat ≤ 102

-- A text that is hexadecimal for these bytes, in any case of letters
def Spells (text : String) (bs : Bytes) : Prop :=
  text.toList.map Char.toLower = encode bs

-- What keeps a text from being hexadecimal, as it is reported. The length comes before the digits.
inductive Misspells (text : String) : String → Prop
  | odd (hlength : (Utf8.bytesOf text).length % 2 = 1) : Misspells text "Odd number of digits"
  | digit {before after : Bytes} {b : UInt8} (hlength : (Utf8.bytesOf text).length % 2 = 0)
      (hsplit : Utf8.bytesOf text = before ++ b :: after) (hbefore : ∀ d ∈ before, IsDigit d)
      (hdigit : ¬IsDigit b) :
      Misspells text
        ("Invalid character " ++ showByte b ++ " at position " ++ toString before.length)

section Digits

variable {b : UInt8} {v w : Nat}

-- The character of a byte, in lower case
def lowerChar (b : UInt8) : Char :=
  (Char.ofNat b.toNat).toLower

theorem value?_of_isDigit (h : IsDigit b) : ∃ v, value? b = some v := by
  unfold value?
  rcases h with h | h | h
  · exact ⟨_, if_pos h⟩
  · have h₁ : ¬(48 ≤ b.toNat ∧ b.toNat ≤ 57) := by omega
    exact ⟨_, by simp only [if_neg h₁, if_pos h]; rfl⟩
  · have h₁ : ¬(48 ≤ b.toNat ∧ b.toNat ≤ 57) := by omega
    have h₂ : ¬(65 ≤ b.toNat ∧ b.toNat ≤ 70) := by omega
    exact ⟨_, by simp only [if_neg h₁, if_neg h₂, if_pos h]; rfl⟩

theorem value?_of_not_isDigit (h : ¬IsDigit b) : value? b = none := by
  rw [IsDigit, not_or, not_or] at h
  simp only [value?, if_neg h.1, if_neg h.2.1, if_neg h.2.2]

theorem digit_injective (hv : v < 16) (hw : w < 16) (h : digit v = digit w) : v = w := by
  revert w
  revert v
  decide

-- The two hundred and fifty-six bytes one by one
theorem lowerChar_cases (b : UInt8) :
    (match value? b with
    | some v => decide (v < 16) && lowerChar b == digit v
    | none => !isLowerDigit (lowerChar b)) = true := by
  have hall : ∀ n < 256, (match value? (UInt8.ofNat n) with
      | some v => decide (v < 16) && lowerChar (UInt8.ofNat n) == digit v
      | none => !isLowerDigit (lowerChar (UInt8.ofNat n))) = true := by
    decide +kernel
  have h := hall b.toNat b.toNat_lt
  rwa [UInt8.ofNat_toNat] at h

theorem lowerChar_of_value (h : value? b = some v) : v < 16 ∧ lowerChar b = digit v := by
  have hcases := lowerChar_cases b
  rw [h] at hcases
  simpa using hcases

theorem value?_iff (hv : v < 16) : value? b = some v ↔ lowerChar b = digit v := by
  constructor
  · exact fun h => (lowerChar_of_value h).2
  · intro h
    have hcases := lowerChar_cases b
    cases hvalue : value? b with
    | none =>
      rw [hvalue, h, isLowerDigit_digit hv] at hcases
      cases hcases
    | some w =>
      obtain ⟨hw, hlower⟩ := lowerChar_of_value hvalue
      rw [digit_injective hw hv (hlower.symm.trans h)]

end Digits

section Pairs

variable {position : Nat} {l rest before after bs : Bytes} {a b c : UInt8} {out : Bytes}

theorem readDigit_of_value {v : Nat} (h : value? b = some v) (position : Nat) :
    readDigit b position = .ok v := by
  simp only [readDigit, h]

theorem readDigit_of_not_isDigit (h : ¬IsDigit b) (position : Nat) :
    readDigit b position = .error (.invalidDigit b position) := by
  simp only [readDigit, value?_of_not_isDigit h]

theorem decodePairs_of_values {high low : Nat} (ha : value? a = some high)
    (hb : value? b = some low) (position : Nat) (rest : Bytes) :
    decodePairs position (a :: b :: rest) =
      (decodePairs (position + 2) rest).map (UInt8.ofNat (high * 16 + low) :: ·) := by
  simp only [decodePairs, readDigit_of_value ha, readDigit_of_value hb, bind, Except.bind, pure,
    Except.pure]
  cases decodePairs (position + 2) rest <;> rfl

theorem exists_decodePairs (hlength : l.length % 2 = 0) (h : ∀ d ∈ l, IsDigit d)
    (position : Nat) : ∃ bs, decodePairs position l = .ok bs := by
  induction position, l using decodePairs.induct with
  | case1 position => exact ⟨[], rfl⟩
  | case2 position x => cases hlength
  | case3 position a b rest ih =>
    obtain ⟨ha, hb, hrest⟩ := (List.forall_mem_cons.mp h).imp_right List.forall_mem_cons.mp
    rw [List.length_cons, List.length_cons] at hlength
    obtain ⟨high, hhigh⟩ := value?_of_isDigit ha
    obtain ⟨low, hlow⟩ := value?_of_isDigit hb
    obtain ⟨bs, hbs⟩ := ih (by omega) hrest
    rw [decodePairs_of_values hhigh hlow, hbs]
    exact ⟨_, rfl⟩

-- By induction on the pairs: the first byte that is no digit stands in the first pair or behind it.
theorem decodePairs_of_split (hlength : (before ++ b :: after).length % 2 = 0)
    (hbefore : ∀ d ∈ before, IsDigit d) (hb : ¬IsDigit b) (position : Nat) :
    decodePairs position (before ++ b :: after) =
      .error (.invalidDigit b (position + before.length)) := by
  induction position, before using decodePairs.induct with
  | case1 position =>
    cases after with
    | nil => cases hlength
    | cons next after =>
      simp only [List.nil_append, decodePairs, readDigit_of_not_isDigit hb, bind, Except.bind]
      rfl
  | case2 position x =>
    obtain ⟨v, hv⟩ := value?_of_isDigit (hbefore x List.mem_cons_self)
    simp only [List.singleton_append, decodePairs, readDigit_of_value hv,
      readDigit_of_not_isDigit hb, bind, Except.bind]
    rfl
  | case3 position x y rest ih =>
    obtain ⟨hx, hy, hrest⟩ := (List.forall_mem_cons.mp hbefore).imp_right List.forall_mem_cons.mp
    obtain ⟨high, hhigh⟩ := value?_of_isDigit hx
    obtain ⟨low, hlow⟩ := value?_of_isDigit hy
    rw [List.cons_append, List.cons_append, List.length_cons, List.length_cons] at hlength
    rw [List.cons_append, List.cons_append, decodePairs_of_values hhigh hlow,
      ih (by omega) hrest, List.length_cons, List.length_cons]
    simp only [Except.map]
    congr 2
    omega

theorem digits_or_split (l : Bytes) : (∀ d ∈ l, IsDigit d) ∨
    ∃ before b after, l = before ++ b :: after ∧ (∀ d ∈ before, IsDigit d) ∧ ¬IsDigit b := by
  induction l with
  | nil => exact .inl fun _ hmem => absurd hmem List.not_mem_nil
  | cons d l ih =>
    by_cases hd : IsDigit d
    · rcases ih with hall | ⟨before, b, after, rfl, hbefore, hb⟩
      · exact .inl (List.forall_mem_cons.mpr ⟨hd, hall⟩)
      · exact .inr ⟨d :: before, b, after, rfl, List.forall_mem_cons.mpr ⟨hd, hbefore⟩, hb⟩
    · exact .inr ⟨[], d, l, rfl, fun _ hmem => absurd hmem List.not_mem_nil, hd⟩

theorem encode_cons (b : UInt8) (bs : Bytes) :
    encode (b :: bs) = digit (b.toNat / 16) :: digit (b.toNat % 16) :: encode bs := rfl

-- By induction on the pairs: two digits are those of one byte.
theorem lower_of_decodePairs (h : decodePairs position l = .ok bs) :
    l.map lowerChar = encode bs := by
  induction position, l using decodePairs.induct generalizing bs with
  | case1 position =>
    cases h
    rfl
  | case2 position x => cases h
  | case3 position a b rest ih =>
    cases hhigh : value? a with
    | none =>
      simp only [decodePairs, readDigit, hhigh, bind, Except.bind] at h
      cases h
    | some high =>
      cases hlow : value? b with
      | none =>
        simp only [decodePairs, readDigit, hhigh, hlow, bind, Except.bind] at h
        cases h
      | some low =>
        rw [decodePairs_of_values hhigh hlow] at h
        obtain ⟨hlt, ha⟩ := lowerChar_of_value hhigh
        obtain ⟨hlt', hb⟩ := lowerChar_of_value hlow
        cases hrest : decodePairs (position + 2) rest with
        | error fault =>
          rw [hrest] at h
          cases h
        | ok tail =>
          rw [hrest] at h
          cases h
          have hbyte : (UInt8.ofNat (high * 16 + low)).toNat = high * 16 + low := by
            rw [UInt8.toNat_ofNat']
            omega
          rw [encode_cons, hbyte, List.map_cons, List.map_cons, ha, hb, ih hrest,
            show (high * 16 + low) / 16 = high by omega, show (high * 16 + low) % 16 = low by omega]

theorem decodePairs_of_lower (h : l.map lowerChar = encode bs) (position : Nat) :
    decodePairs position l = .ok bs := by
  induction bs generalizing l position with
  | nil =>
    rw [List.map_eq_nil_iff.mp h]
    rfl
  | cons c bs ih =>
    rw [encode_cons] at h
    obtain ⟨a, rest, rfl, ha, h⟩ := List.map_eq_cons_iff.mp h
    obtain ⟨b, rest, rfl, hb, h⟩ := List.map_eq_cons_iff.mp h
    rw [decodePairs_of_values ((value?_iff (div_lt_sixteen c)).mpr ha)
      ((value?_iff (mod_lt_sixteen c)).mpr hb), ih h, Nat.div_add_mod', UInt8.ofNat_toNat]
    rfl

end Pairs

section Texts

variable {text : String} {bs : Bytes} {cs : List Char} {c : Char}

theorem lt_of_isLowerDigit (h : isLowerDigit c = true) : c.toNat < 0x80 := by
  simp only [isLowerDigit, Bool.or_eq_true, Bool.and_eq_true, decide_eq_true_eq, Char.le_def,
    UInt32.le_iff_toNat_le] at h
  rcases h with ⟨-, h⟩ | ⟨-, h⟩
  · exact Nat.lt_of_le_of_lt h (by decide)
  · exact Nat.lt_of_le_of_lt h (by decide)

theorem toLower_of_le (h : 0x80 ≤ c.toNat) : c.toLower = c := by
  have hupper : ¬(c.val ≥ 'A'.val ∧ c.val ≤ 'Z'.val) := by
    rintro ⟨-, hle⟩
    have hle' : c.toNat ≤ 'Z'.toNat := UInt32.le_iff_toNat_le.mp hle
    have hz : 'Z'.toNat = 90 := rfl
    omega
  exact dif_neg hupper

theorem lowerChar_ascii (h : c.toNat < 0x80) : lowerChar (UInt8.ofNat c.toNat) = c.toLower := by
  have hb : (UInt8.ofNat c.toNat).toNat = c.toNat := by
    rw [UInt8.toNat_ofNat']
    omega
  rw [lowerChar, hb, Char.ofNat_toNat]

-- Only texts in ASCII are in lower case what is written for bytes.
theorem ascii_of_lower (h : cs.map Char.toLower = encode bs) : ∀ c ∈ cs, c.toNat < 0x80 := by
  intro c hc
  have hmem : c.toLower ∈ encode bs := h ▸ List.mem_map_of_mem hc
  rcases Nat.lt_or_ge c.toNat 0x80 with hlow | hhigh
  · exact hlow
  · rw [toLower_of_le hhigh] at hmem
    exact lt_of_isLowerDigit (isLowerDigit_of_mem_encode hmem)

theorem ascii_of_lowerChar (h : (Utf8.encode cs).map lowerChar = encode bs) :
    ∀ c ∈ cs, c.toNat < 0x80 := by
  intro c hc
  rcases Nat.lt_or_ge c.toNat 0x80 with hlow | hhigh
  · exact hlow
  · obtain ⟨b, hb⟩ := Utf8.exists_mem_encodeChar c
    have hmem : lowerChar b ∈ encode bs :=
      h ▸ List.mem_map_of_mem (List.mem_flatMap.mpr ⟨c, hc, hb⟩)
    have hle := Utf8.le_of_mem_encodeChar hhigh hb
    have hcases := lowerChar_cases b
    rw [value?_of_not_isDigit (by rw [IsDigit]; omega), isLowerDigit_of_mem_encode hmem] at hcases
    cases hcases

theorem lowerChar_encode (h : ∀ c ∈ cs, c.toNat < 0x80) :
    (Utf8.encode cs).map lowerChar = cs.map Char.toLower := by
  rw [Utf8.encode_ascii h, List.map_map]
  exact List.map_congr_left fun c hc => lowerChar_ascii (h c hc)

theorem length_of_encode (bs : Bytes) : (encode bs).length = 2 * bs.length := by
  rw [← length_encode, String.length_ofList]

theorem decode_eq_ok_iff : decode text = .ok bs ↔ Spells text bs := by
  rw [decode, decodeBytes, Spells]
  constructor
  · intro h
    split at h
    · cases h
    · have hlower := lower_of_decodePairs h
      rw [← hlower, Utf8.bytesOf, lowerChar_encode (ascii_of_lowerChar hlower)]
  · intro h
    have hlower : (Utf8.bytesOf text).map lowerChar = encode bs := by
      rw [← h, Utf8.bytesOf, lowerChar_encode (ascii_of_lower h)]
    have hlength := congrArg List.length hlower
    rw [List.length_map, length_of_encode] at hlength
    rw [if_neg (by omega)]
    exact decodePairs_of_lower hlower 0

theorem decode_of_misspells {message : String} (h : Misspells text message) :
    ∃ fault, decode text = .error fault ∧ fault.message = message := by
  rw [decode, decodeBytes]
  cases h with
  | odd hodd => exact ⟨.oddLength, if_pos hodd, rfl⟩
  | @digit before after b heven hsplit hbefore hb =>
    refine ⟨.invalidDigit b before.length, ?_, rfl⟩
    rw [if_neg (by omega), hsplit, decodePairs_of_split (hsplit ▸ heven) hbefore hb, Nat.zero_add]

theorem spells_or_misspells (text : String) :
    (∃ bs, Spells text bs) ∨ ∃ message, Misspells text message := by
  by_cases hodd : (Utf8.bytesOf text).length % 2 = 1
  · exact .inr ⟨_, .odd hodd⟩
  have heven : (Utf8.bytesOf text).length % 2 = 0 := by omega
  rcases digits_or_split (Utf8.bytesOf text) with hall | ⟨before, b, after, hsplit, hbefore, hb⟩
  · obtain ⟨bs, hbs⟩ := exists_decodePairs heven hall 0
    refine .inl ⟨bs, decode_eq_ok_iff.mp ?_⟩
    rw [decode, decodeBytes, if_neg hodd, hbs]
  · exact .inr ⟨_, .digit heven hsplit hbefore hb⟩

end Texts

end ChallengeLogin.Text.Hex
