import ChallengeLogin.Json.Skip
import ChallengeLogin.Proofs.Json.Grammar

namespace ChallengeLogin.Json

open ChallengeLogin.Text

-- What is checked for each entry of a table holds of its entries.
theorem forall_of_all {α : Type} {p : α → Prop} [DecidablePred p] {table : List α}
    (h : table.all (fun a => p a) = true) : ∀ a ∈ table, p a := by
  intro a ha
  exact of_decide_eq_true (List.all_eq_true.mp h a ha)

section Blanks

variable {bs : List Char}

theorem isSpace_of_mem_blanks {c : Char} (h : c ∈ blanks) : isSpace (some c) = true := by
  have hall : ∀ b ∈ blanks, isSpace (some b) = true := forall_of_all (by decide)
  exact hall c h

theorem isSpace_of_mem_map (h : IsBlank bs) {a : Option Char} (ha : a ∈ bs.map some) :
    isSpace a = true := by
  obtain ⟨c, hc, rfl⟩ := List.mem_map.mp ha
  exact isSpace_of_mem_blanks (h c hc)

theorem skipSpace_blank (h : IsBlank bs) (rest : Symbols) :
    skipSpace (bs.map some ++ rest) = skipSpace rest :=
  List.dropWhile_append_of_pos fun _ => isSpace_of_mem_map h

theorem skipSpace_skipSpace (s : Symbols) : skipSpace (skipSpace s) = skipSpace s := by
  unfold skipSpace
  induction s with
  | nil => rfl
  | cons a s ih =>
    by_cases ha : isSpace a = true
    · rwa [List.dropWhile_cons_of_pos ha]
    · rw [List.dropWhile_cons_of_neg ha, List.dropWhile_cons_of_neg ha]

theorem skipSpace_cons {c : Char} (rest : Symbols) (h : isSpace (some c) = false) :
    skipSpace (some c :: rest) = some c :: rest := by
  rw [skipSpace, List.dropWhile_cons_of_neg (by simp [h])]

end Blanks

section Characters

variable {c : Char} {ps ds : List Char} {n : Nat}

theorem hexSymbol?_of_hexDigit (h : HexDigit c n) : hexSymbol? (some c) = some n := by
  have hlower : ∀ i : Fin 16, hexValue? ("0123456789abcdef".toList[i]) = some i.val := by decide
  have hupper : ∀ i : Fin 16, hexValue? ("0123456789ABCDEF".toList[i]) = some i.val := by decide
  rcases h with h | h <;> obtain ⟨hn, rfl⟩ := List.getElem?_eq_some_iff.mp h
  · exact hlower ⟨n, hn⟩
  · exact hupper ⟨n, hn⟩

theorem fourDigits_of_fourHex (h : FourHex ds n) (rest : Symbols) :
    fourDigits (ds.map some ++ rest) = .ok (n, rest) := by
  obtain ⟨ha, hb, hc, hd⟩ := h
  simp only [List.map_cons, List.map_nil, List.cons_append, List.nil_append, fourDigits,
    hexSymbol?_of_hexDigit ha, hexSymbol?_of_hexDigit hb, hexSymbol?_of_hexDigit hc,
    hexSymbol?_of_hexDigit hd]

theorem shortEscape?_of_mem {letter : Char} (h : (letter, c) ∈ shortEscapes) :
    shortEscape? letter = some c ∧ letter ≠ 'u' := by
  have hall : ∀ e ∈ shortEscapes, shortEscape? e.1 = some e.2 ∧ e.1 ≠ 'u' := by decide
  exact hall _ h

theorem lowSurrogate_of_fourHex (h : FourHex ds n) (hlow : IsLowSurrogate n) (rest : Symbols) :
    lowSurrogate (some '\\' :: some 'u' :: (ds.map some ++ rest)) = .ok (n, rest) := by
  have hrange : 0xDC00 ≤ n ∧ n ≤ 0xDFFF := hlow
  simp only [lowSurrogate, fourDigits_of_fourHex h, if_pos hrange]

theorem escaped_spelled (h : SpellsEscape ps c) (rest : Symbols) :
    escaped (ps.map some ++ rest) = .ok (c, rest) := by
  cases h with
  | short hmem =>
    obtain ⟨hshort, hletter⟩ := shortEscape?_of_mem hmem
    simp [escaped, hshort]
  | numbered hds hhigh hlow =>
    rw [IsHighSurrogate] at hhigh
    rw [IsLowSurrogate] at hlow
    simp only [List.map_cons, List.cons_append, escaped, numberedEscape,
      fourDigits_of_fourHex hds, if_neg hlow, if_neg hhigh]
  | @paired ds es n m hds hhigh hes hlow =>
    rw [IsHighSurrogate] at hhigh
    have hnot : ¬(0xDC00 ≤ n ∧ n ≤ 0xDFFF) := by omega
    simp only [List.map_cons, List.map_append, List.cons_append, List.append_assoc, escaped,
      numberedEscape, fourDigits_of_fourHex hds, if_neg hnot, if_pos hhigh,
      lowSurrogate_of_fourHex hes hlow]

theorem stringItem_spelled (h : SpellsChar ps c) (rest : Symbols) :
    stringItem (ps.map some ++ rest) = .ok (some c, rest) := by
  cases h with
  | plain hquote hslash hcontrol =>
    simp only [List.map_cons, List.map_nil, List.cons_append, List.nil_append, stringItem,
      if_neg hquote, if_neg hslash, if_neg (Nat.not_lt.mpr hcontrol)]
  | escaped hescape => simp [stringItem, escaped_spelled hescape]

theorem stringItem_quote (rest : Symbols) : stringItem (some '"' :: rest) = .ok (none, rest) := by
  simp [stringItem]

end Characters

section Strings

variable {ps cs : List Char} {c : Char} {s rest : Symbols}

theorem stringBody_of_some (h : stringItem s = .ok (some c, rest)) :
    stringBody s = (stringBody rest).map fun r => (c :: r.1, r.2) := by
  rw [stringBody]
  split <;> rename_i h' <;> rw [h] at h'
  · cases h'
  · cases h'
  · cases h'
    cases stringBody rest <;> rfl

theorem stringBody_of_none (h : stringItem s = .ok (none, rest)) :
    stringBody s = .ok ([], rest) := by
  rw [stringBody]
  split <;> rename_i h' <;> rw [h] at h' <;> cases h'
  rfl

-- A string is decoded character by character.
theorem stringBody_spelled (h : SpellsChars ps cs) (rest : Symbols) :
    stringBody (ps.map some ++ some '"' :: rest) = .ok (cs, rest) := by
  induction h with
  | nil => exact stringBody_of_none (stringItem_quote rest)
  | cons hchar _ ih =>
    rw [List.map_append, List.append_assoc, stringBody_of_some (stringItem_spelled hchar _), ih]
    rfl

theorem skipString_of_true (h : skippedItem s = .ok (true, rest)) :
    skipString s = skipString rest := by
  rw [skipString]
  split <;> rename_i h' <;> rw [h] at h' <;> cases h'
  rfl

theorem skipString_of_false (h : skippedItem s = .ok (false, rest)) :
    skipString s = .ok ((), rest) := by
  rw [skipString]
  split <;> rename_i h' <;> rw [h] at h' <;> cases h'
  rfl

theorem skippedItem_escape (h : skippedEscape s = .ok ((), rest)) :
    skippedItem (some '\\' :: s) = .ok (true, rest) := by
  simp [skippedItem, h]

theorem skippedEscape_numbered {ds : List Char} {n : Nat} (h : FourHex ds n) (rest : Symbols) :
    skippedEscape (some 'u' :: (ds.map some ++ rest)) = .ok ((), rest) := by
  simp only [skippedEscape, fourDigits_of_fourHex h]

-- A pair of surrogates is skipped in two steps, everything else in one.
theorem skipString_spelledChar (h : SpellsChar ps c) (rest : Symbols) :
    skipString (ps.map some ++ rest) = skipString rest := by
  cases h with
  | plain hquote hslash hcontrol =>
    refine skipString_of_true ?_
    simp only [List.map_cons, List.map_nil, List.cons_append, List.nil_append, skippedItem,
      if_neg hquote, if_neg hslash, if_neg (Nat.not_lt.mpr hcontrol)]
  | escaped hescape =>
    cases hescape with
    | @short letter c hmem =>
      obtain ⟨hshort, hletter⟩ := shortEscape?_of_mem hmem
      have hskip : skippedEscape (some letter :: rest) = .ok ((), rest) := by
        simp [skippedEscape, hshort]
      exact skipString_of_true (skippedItem_escape hskip)
    | numbered hds =>
      exact skipString_of_true (skippedItem_escape (skippedEscape_numbered hds rest))
    | @paired ds es n m hds hhigh hes hlow =>
      have hsecond := skippedItem_escape (skippedEscape_numbered hes rest)
      have hfirst := skippedItem_escape
        (skippedEscape_numbered hds (some '\\' :: some 'u' :: (es.map some ++ rest)))
      rw [← skipString_of_true hsecond, ← skipString_of_true hfirst]
      simp only [List.map_cons, List.map_append, List.cons_append, List.append_assoc]

theorem skipString_spelled (h : SpellsChars ps cs) (rest : Symbols) :
    skipString (ps.map some ++ some '"' :: rest) = .ok ((), rest) := by
  induction h with
  | nil => exact skipString_of_false (by simp [skippedItem])
  | cons hchar _ ih => rw [List.map_append, List.append_assoc, skipString_spelledChar hchar, ih]

end Strings

end ChallengeLogin.Json
