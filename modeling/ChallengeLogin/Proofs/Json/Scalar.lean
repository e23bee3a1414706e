import ChallengeLogin.Json.Writer
import ChallengeLogin.Proofs.Json.Numbers

namespace ChallengeLogin.Json

open ChallengeLogin.Text

section Strings

theorem hexDigit_spelled {n : Nat} (h : n < 16) : HexDigit (hexDigit n) n := by
  have hlower : ∀ i : Fin 16, "0123456789abcdef".toList[i.val]? = some (hexDigit i) := by decide
  exact .inl (hlower ⟨n, h⟩)

theorem fourHex_low {n : Nat} (h : n < 256) :
    FourHex ['0', '0', hexDigit (n / 16), hexDigit (n % 16)] n := by
  have hzero : HexDigit '0' 0 := .inl rfl
  have hvalue : ((0 * 16 + 0) * 16 + n / 16) * 16 + n % 16 = n := by omega
  have hdigits := FourHex.digits hzero hzero (hexDigit_spelled (show n / 16 < 16 by omega))
    (hexDigit_spelled (show n % 16 < 16 by omega))
  rwa [hvalue] at hdigits

theorem spellsEscape_low {c : Char} (h : c.toNat < 256) :
    SpellsEscape ['u', '0', '0', hexDigit (c.toNat / 16), hexDigit (c.toNat % 16)] c := by
  have hhigh : ¬IsHighSurrogate c.toNat := fun hn => absurd hn.1 (by omega)
  have hlow : ¬IsLowSurrogate c.toNat := fun hn => absurd hn.1 (by omega)
  have hescape := SpellsEscape.numbered (fourHex_low h) hhigh hlow
  rwa [Char.ofNat_toNat] at hescape

theorem spellsChar_short {letter c : Char} (h : (letter, c) ∈ shortEscapes) :
    SpellsChar ['\\', letter] c :=
  .escaped (.short h)

-- One case for each way in which a character is written
theorem spellsChar_escapeChar (c : Char) : SpellsChar (escapeChar c) c := by
  unfold escapeChar
  by_cases hq : c = '"'
  · rw [if_pos hq, hq]
    exact spellsChar_short (by decide)
  rw [if_neg hq]
  by_cases hb : c = '\\'
  · rw [if_pos hb, hb]
    exact spellsChar_short (by decide)
  rw [if_neg hb]
  by_cases hc : c.toNat < 0x20
  · rw [if_pos hc]
    by_cases h₁ : c = '\x08'
    · rw [if_pos h₁, h₁]
      exact spellsChar_short (by decide)
    rw [if_neg h₁]
    by_cases h₂ : c = '\x0c'
    · rw [if_pos h₂, h₂]
      exact spellsChar_short (by decide)
    rw [if_neg h₂]
    by_cases h₃ : c = '\n'
    · rw [if_pos h₃, h₃]
      exact spellsChar_short (by decide)
    rw [if_neg h₃]
    by_cases h₄ : c = '\r'
    · rw [if_pos h₄, h₄]
      exact spellsChar_short (by decide)
    rw [if_neg h₄]
    by_cases h₅ : c = '\t'
    · rw [if_pos h₅, h₅]
      exact spellsChar_short (by decide)
    rw [if_neg h₅]
    exact .escaped (spellsEscape_low (by omega))
  · rw [if_neg hc]
    exact .plain hq hb (Nat.not_lt.mp hc)

theorem spellsChars_escape (cs : List Char) : SpellsChars (escape cs) cs := by
  induction cs with
  | nil => exact .nil
  | cons c cs ih =>
    rw [escape, List.flatMap_cons, ← escape]
    exact .cons (spellsChar_escapeChar c) ih

end Strings

section Numbers

variable {n : Nat}

theorem isDigit_of_mem_decimal {c : Char} (h : c ∈ decimal n) : c.isDigit = true :=
  Nat.isDigit_of_mem_toDigits (by decide) (by decide) h

-- Only zero is written with a zero in front.
theorem decimal_eq_cons : ∃ c tail, decimal n = c :: tail ∧ (c = '0' → n = 0) := by
  unfold decimal
  induction n using Nat.strongRecOn with
  | _ n ih =>
    by_cases hn : n < 10
    · exact ⟨n.digitChar, [], Nat.toDigits_of_lt_base hn, Nat.digitChar_eq_zero.mp⟩
    · obtain ⟨c, tail, hc, hzero⟩ := ih (n / 10) (by omega)
      refine ⟨c, tail ++ [Nat.digitChar (n % 10)], ?_, fun h => ?_⟩
      · rw [Nat.toDigits_of_base_le (by decide) (by omega), hc, List.cons_append]
      · have := hzero h
        omega

theorem isWhole_decimal (n : Nat) : IsWhole (decimal n) := by
  obtain ⟨c, tail, hc, hzero⟩ := decimal_eq_cons (n := n)
  refine ⟨⟨?_, fun _ => isDigit_of_mem_decimal⟩, fun hhead => ?_⟩
  · rw [hc]
    exact List.cons_ne_nil c tail
  · rw [hc] at hhead
    rw [hzero (Option.some.inj hhead)]
    rfl

theorem ofDigitChars_decimal (n : Nat) : Nat.ofDigitChars 10 (decimal n) 0 = n :=
  Nat.ofDigitChars_ten_toDigits

end Numbers

end ChallengeLogin.Json
