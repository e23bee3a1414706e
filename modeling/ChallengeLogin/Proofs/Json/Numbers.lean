import ChallengeLogin.Proofs.Json.Strings

namespace ChallengeLogin.Json

open ChallengeLogin.Text

section Delimiters

variable {rest : Symbols}

-- The characters that a value cannot run into
def delimiters : List Char :=
  [' ', '\t', '\n', '\r', ',', ']', '\x7d']

-- A rest that starts with one of them
def Detached (rest : Symbols) : Prop :=
  ∃ c tail, rest = some c :: tail ∧ c ∈ delimiters

-- A rest that digits before it do not run into
def NoDigit (rest : Symbols) : Prop :=
  ∀ a ∈ rest.head?, isDigit a = false

theorem NoDigit.of_cons {c : Char} {s : Symbols} (h : isDigit (some c) = false) :
    NoDigit (some c :: s) := by
  rintro a ⟨⟩
  exact h

theorem Detached.noDigit (h : Detached rest) : NoDigit rest := by
  have hnone : ∀ c ∈ delimiters, isDigit (some c) = false := forall_of_all (by decide)
  obtain ⟨c, tail, rfl, hc⟩ := h
  exact .of_cons (hnone c hc)

theorem fractionPart_detached (h : Detached rest) : fractionPart rest = .ok ([], rest) := by
  have hpoint : ∀ c ∈ delimiters, c ≠ '.' := forall_of_all (by decide)
  obtain ⟨c, tail, rfl, hc⟩ := h
  rw [fractionPart]
  rintro s hcons
  exact hpoint c hc (Option.some.inj (List.cons.inj hcons).1)

theorem exponentPart_detached (h : Detached rest) : exponentPart rest = .ok (none, rest) := by
  have hletter : ∀ c ∈ delimiters, c ≠ 'e' ∧ c ≠ 'E' := forall_of_all (by decide)
  obtain ⟨c, tail, rfl, hc⟩ := h
  simp [exponentPart, hletter c hc]

end Delimiters

section Numbers

variable {ds cs : List Char} {rest : Symbols}

-- The values of digits, in the order in which they are written
def digitsOf (ds : List Char) : List Nat :=
  ds.map (fun c => c.toNat - 48)

theorem isDigit_iff (c : Char) : isDigit (some c) = c.isDigit := by
  simp only [isDigit, Char.isDigit, Char.toNat, UInt32.le_iff_toNat_le, ge_iff_le]
  rfl

theorem isDigit_of_mem_map (h : ∀ c ∈ ds, c.isDigit = true) {a : Option Char}
    (ha : a ∈ ds.map some) : isDigit a = true := by
  obtain ⟨c, hc, rfl⟩ := List.mem_map.mp ha
  exact (isDigit_iff c).trans (h c hc)

theorem digits_spelled (h : ∀ c ∈ ds, c.isDigit = true) (hrest : NoDigit rest) :
    digits (ds.map some ++ rest) = digitsOf ds ∧ afterDigits (ds.map some ++ rest) = rest := by
  have hstop : rest.takeWhile isDigit = [] ∧ rest.dropWhile isDigit = rest := by
    cases rest with
    | nil => exact ⟨rfl, rfl⟩
    | cons a tail =>
      have ha := hrest a rfl
      exact ⟨List.takeWhile_cons_of_neg (by simp [ha]), List.dropWhile_cons_of_neg (by simp [ha])⟩
  rw [digits, afterDigits, List.takeWhile_append_of_pos fun _ => isDigit_of_mem_map h,
    List.dropWhile_append_of_pos fun _ => isDigit_of_mem_map h, hstop.1, hstop.2, List.append_nil,
    List.map_map]
  exact ⟨rfl, rfl⟩

theorem someDigits_spelled (h : IsDigits ds) (hrest : NoDigit rest) :
    someDigits (ds.map some ++ rest) = .ok (digitsOf ds, rest) := by
  obtain ⟨hne, hall⟩ := h
  obtain ⟨hdigits, hafter⟩ := digits_spelled hall hrest
  cases ds with
  | nil => exact absurd rfl hne
  | cons c ds =>
    have hfirst : isDigit (some c) = true := (isDigit_iff c).trans (hall c List.mem_cons_self)
    rw [List.map_cons, List.cons_append] at hdigits hafter ⊢
    rw [someDigits, if_pos hfirst, hdigits, hafter]

theorem wholePart_spelled (h : IsWhole ds) (hrest : NoDigit rest) :
    wholePart (ds.map some ++ rest) = .ok (digitsOf ds, rest) := by
  obtain ⟨hdigits, hzero⟩ := h
  by_cases hhead : ds.head? = some '0'
  · obtain rfl := hzero hhead
    cases rest with
    | nil => rfl
    | cons a tail => simp [wholePart, hrest a rfl, digitsOf]
  · rw [← someDigits_spelled hdigits hrest]
    cases ds with
    | nil => exact absurd rfl hdigits.1
    | cons c ds =>
      rw [List.map_cons, List.cons_append, wholePart]
      rintro a tail hcons
      exact hhead (congrArg some (Option.some.inj (List.cons.inj hcons).1))

theorem exponentDigits_spelled (h : IsDigits ds) (hrest : Detached rest) (negative : Bool) :
    ∃ n, exponentDigits negative (ds.map some ++ rest) = .ok (some n, rest) := by
  rw [exponentDigits, someDigits_spelled h hrest.noDigit]
  exact ⟨_, rfl⟩

theorem head_of_isDigits (h : IsDigits ds) : ∃ c tail, ds = c :: tail ∧ c.isDigit = true := by
  obtain ⟨hne, hall⟩ := h
  cases ds with
  | nil => exact absurd rfl hne
  | cons c tail => exact ⟨c, tail, rfl, hall c List.mem_cons_self⟩

theorem exponentPart_digit {e c : Char} (he : e = 'e' ∨ e = 'E') (hc : c.isDigit = true)
    (s : Symbols) : exponentPart (some e :: some c :: s) = exponentDigits false (some c :: s) := by
  have hminus : c ≠ '-' := by
    rintro rfl
    cases hc
  have hplus : c ≠ '+' := by
    rintro rfl
    cases hc
  rcases he with rfl | rfl <;> simp [exponentPart, hminus, hplus]

theorem exponentPart_sign {e sign : Char} (he : e = 'e' ∨ e = 'E')
    (hsign : sign = '+' ∨ sign = '-') (s : Symbols) :
    ∃ negative, exponentPart (some e :: some sign :: s) = exponentDigits negative s := by
  rcases hsign with rfl | rfl
  · exact ⟨false, by rcases he with rfl | rfl <;> rfl⟩
  · exact ⟨true, by rcases he with rfl | rfl <;> rfl⟩

theorem exponentPart_spelled (h : IsExponent ds) (hrest : Detached rest) :
    ∃ n, exponentPart (ds.map some ++ rest) = .ok (n, rest) ∧ (n = none → ds = []) := by
  cases h with
  | none => exact ⟨none, exponentPart_detached hrest, fun _ => rfl⟩
  | unsigned he hdigits =>
    obtain ⟨n, hn⟩ := exponentDigits_spelled hdigits hrest false
    obtain ⟨c, tail, rfl, hc⟩ := head_of_isDigits hdigits
    exact ⟨some n, (exponentPart_digit he hc _).trans hn, fun hnone => nomatch hnone⟩
  | @signed e sign ds he hsign hdigits =>
    obtain ⟨negative, hpart⟩ := exponentPart_sign he hsign (ds.map some ++ rest)
    obtain ⟨n, hn⟩ := exponentDigits_spelled hdigits hrest negative
    exact ⟨some n, hpart.trans hn, fun hnone => nomatch hnone⟩

-- What stands behind a fraction neither goes on with it nor starts another one.
theorem exponent_detached {es : List Char} (h : IsExponent es) (hrest : Detached rest) :
    NoDigit (es.map some ++ rest) ∧
      fractionPart (es.map some ++ rest) = .ok ([], es.map some ++ rest) := by
  have hletter {e : Char} (he : e = 'e' ∨ e = 'E') (s : Symbols) :
      NoDigit (some e :: s) ∧ fractionPart (some e :: s) = .ok ([], some e :: s) := by
    rcases he with rfl | rfl <;> exact ⟨.of_cons (by decide), rfl⟩
  cases h with
  | none => exact ⟨hrest.noDigit, fractionPart_detached hrest⟩
  | unsigned he => exact hletter he _
  | signed he => exact hletter he _

theorem fractionPart_spelled {fs es : List Char} (h : IsFraction fs) (he : IsExponent es)
    (hrest : Detached rest) :
    ∃ ns, fractionPart (fs.map some ++ (es.map some ++ rest)) = .ok (ns, es.map some ++ rest) ∧
      (ns = [] → fs = []) := by
  obtain ⟨hstop, hnone⟩ := exponent_detached he hrest
  cases h with
  | none => exact ⟨[], hnone, fun _ => rfl⟩
  | digits hdigits =>
    refine ⟨_, someDigits_spelled hdigits hstop, fun hnil => ?_⟩
    exact absurd (List.map_eq_nil_iff.mp hnil) hdigits.1

theorem noDigit_of_fraction {fs es : List Char} (h : IsFraction fs) (he : IsExponent es)
    (hrest : Detached rest) : NoDigit (fs.map some ++ (es.map some ++ rest)) := by
  cases h with
  | none => exact (exponent_detached he hrest).1
  | digits _ => exact .of_cons (by decide)

theorem unsignedNumeral_spelled (h : IsUnsigned cs) (hrest : Detached rest) (negative : Bool) :
    ∃ n, unsignedNumeral negative (cs.map some ++ rest) = .ok (n, rest) ∧
      n.negative = negative ∧
      (n.fraction = [] → n.exponent = none → IsWhole cs ∧ n.whole = digitsOf cs) := by
  obtain @⟨ws, _, _, hwhole, hfraction, hexponent⟩ := h
  obtain ⟨fraction, hfs, hnofs⟩ := fractionPart_spelled hfraction hexponent hrest
  obtain ⟨exponent, hes, hnoes⟩ := exponentPart_spelled hexponent hrest
  have hws := wholePart_spelled hwhole (noDigit_of_fraction hfraction hexponent hrest)
  refine ⟨⟨negative, digitsOf ws, fraction, exponent⟩, ?_, rfl, fun hf he => ?_⟩
  · rw [List.map_append, List.map_append, List.append_assoc, List.append_assoc, unsignedNumeral,
      hws]
    simp only [hfs, hes]
  · rw [hnofs hf, hnoes he, List.append_nil, List.append_nil]
    exact ⟨hwhole, rfl⟩

theorem startsNumber_of_isDigit {c : Char} (h : c.isDigit = true) : startsNumber c = true := by
  have hdigit := (isDigit_iff c).trans h
  rw [isDigit] at hdigit
  rw [startsNumber, hdigit, Bool.or_true]

theorem isSpace_of_startsNumber {c : Char} (h : startsNumber c = true) :
    isSpace (some c) = false := by
  have hnone : ∀ b ∈ blanks, startsNumber b = false := forall_of_all (by decide)
  rw [Bool.eq_false_iff]
  intro hspace
  have hmem : c ∈ blanks := by simpa [isSpace, blanks, or_assoc, or_comm, or_left_comm] using hspace
  rw [hnone c hmem] at h
  cases h

theorem head_of_isUnsigned (h : IsUnsigned cs) :
    ∃ c tail, cs = c :: tail ∧ c.isDigit = true := by
  obtain ⟨hwhole, -, -⟩ := h
  obtain ⟨c, tail, rfl, hc⟩ := head_of_isDigits hwhole.1
  exact ⟨c, _, rfl, hc⟩

theorem numeral_of_isUnsigned (h : IsUnsigned cs) (rest : Symbols) :
    numeral (cs.map some ++ rest) = unsignedNumeral false (cs.map some ++ rest) := by
  obtain ⟨c, tail, rfl, hc⟩ := head_of_isUnsigned h
  rw [List.map_cons, List.cons_append, numeral]
  rintro s hcons
  cases (List.cons.inj hcons).1
  cases hc

-- A number that is more than its digits is taken apart into something that has no value.
theorem numeral_spelled (h : IsNumber cs) (hrest : Detached rest) :
    ∃ n, numeral (cs.map some ++ rest) = .ok (n, rest) ∧
      (n.negative = false → n.fraction = [] → n.exponent = none →
        IsWhole cs ∧ n.whole = digitsOf cs) := by
  cases h with
  | positive h =>
    obtain ⟨n, hn, -, hparts⟩ := unsignedNumeral_spelled h hrest false
    exact ⟨n, (numeral_of_isUnsigned h rest).trans hn, fun _ => hparts⟩
  | negative h =>
    obtain ⟨n, hn, hnegative, -⟩ := unsignedNumeral_spelled h hrest true
    refine ⟨n, hn, fun hpositive => ?_⟩
    cases hnegative.symm.trans hpositive

end Numbers

section Values

variable {cs : List Char} {n : Nat} {rest : Symbols}

theorem foldl_digitsOf (ds : List Char) (m : Nat) :
    (digitsOf ds).foldl (fun m d => m * 10 + d) m = Nat.ofDigitChars 10 ds m := by
  have hzero : '0'.toNat = 48 := rfl
  rw [Nat.ofDigitChars_eq_foldl, digitsOf, List.foldl_map, hzero]
  simp only [Nat.mul_comm 10]

theorem le_foldl (ds : List Nat) (m : Nat) : m ≤ ds.foldl (fun m d => m * 10 + d) m := by
  induction ds generalizing m with
  | nil => exact Nat.le_refl m
  | cons d ds ih => exact Nat.le_trans (by omega) (ih (m * 10 + d))

-- All digits of a number are absorbed as long as they stay within 64 bits.
theorem absorb_eq_foldl {m : Nat} {ds : List Nat}
    (h : ds.foldl (fun m d => m * 10 + d) m ≤ maxUnsigned) :
    absorb m ds = (ds.foldl (fun m d => m * 10 + d) m, 0) := by
  induction ds generalizing m with
  | nil => rfl
  | cons d ds ih =>
    rw [absorb, if_pos (Nat.le_trans (le_foldl ds _) h), ih h]
    rfl

theorem absorb_of_lt {m : Nat} {ds : List Nat} (hm : m ≤ maxUnsigned)
    (h : maxUnsigned < ds.foldl (fun m d => m * 10 + d) m) : (absorb m ds).2 ≠ 0 := by
  induction ds generalizing m with
  | nil => exact absurd h (Nat.not_lt.mpr hm)
  | cons d ds ih =>
    rw [absorb]
    by_cases hstep : m * 10 + d ≤ maxUnsigned
    · rw [if_pos hstep]
      exact ih hstep h
    · rw [if_neg hstep]
      exact Nat.succ_ne_zero _

-- Rounding moves a number by less than one unit of its last binary digit.
theorem roundBinary_le (n : Nat) : roundBinary n ≤ 2 * n := by
  by_cases hn : n = 0
  · subst hn
    decide
  have hunit : Nat.pow 2 (n.log2 - 52) ≤ n :=
    Nat.le_trans (Nat.pow_le_pow_right (by decide) (Nat.sub_le _ _)) (Nat.log2_self_le hn)
  have hdiv : n / Nat.pow 2 (n.log2 - 52) * Nat.pow 2 (n.log2 - 52) ≤ n := Nat.div_mul_le_self _ _
  simp only [roundBinary, Nat.add_mul, Nat.one_mul]
  split
  · omega
  · split
    · omega
    · split <;> omega

theorem outOfRange_zero (h : n ≤ maxUnsigned) : outOfRange n 0 = false := by
  have h₁ := roundBinary_le n
  have hone : roundBinary (Nat.pow 10 (0 : Int).toNat) = 1 := by decide
  have h₂ := roundBinary_le (roundBinary n * 1)
  have hmax {e : Nat} (he : 66 ≤ e) : 4 * maxUnsigned < Nat.pow 2 e :=
    Nat.lt_of_lt_of_le (show 4 * maxUnsigned < Nat.pow 2 66 by decide)
      (Nat.pow_le_pow_right (by decide) he)
  have hlt {top : Nat} (htop : 4 * maxUnsigned < top) :
      ¬top ≤ roundBinary (roundBinary n * 1) := by omega
  by_cases hn : n = 0
  · simp [outOfRange, hn]
  · simp only [outOfRange, hone, decide_eq_false (hlt (hmax (show 66 ≤ 1024 by decide)))]
    simp

-- Plain digits within 64 bits are read as the number that they spell.
theorem number_of_whole (h : IsWhole cs) (hmax : Nat.ofDigitChars 10 cs 0 ≤ maxUnsigned)
    (hrest : Detached rest) :
    number (cs.map some ++ rest) = .ok (some (Nat.ofDigitChars 10 cs 0), rest) := by
  have habsorb : absorb 0 (digitsOf cs) = (Nat.ofDigitChars 10 cs 0, 0) := by
    rw [absorb_eq_foldl (by rwa [foldl_digitsOf]), foldl_digitsOf]
  have hunsigned : IsUnsigned (cs ++ ([] ++ [])) := ⟨h, .none, .none⟩
  rw [List.append_nil, List.append_nil] at hunsigned
  have hnumeral : numeral (cs.map some ++ rest) = .ok (⟨false, digitsOf cs, [], none⟩, rest) := by
    rw [numeral_of_isUnsigned hunsigned, unsignedNumeral, wholePart_spelled h hrest.noDigit]
    simp only [fractionPart_detached hrest, exponentPart_detached hrest]
  have hrange : Numeral.isOutOfRange ⟨false, digitsOf cs, [], none⟩ = false := by
    simp only [Numeral.isOutOfRange, habsorb, absorb]
    exact outOfRange_zero hmax
  have hvalue : Numeral.value? ⟨false, digitsOf cs, [], none⟩ =
      some (Nat.ofDigitChars 10 cs 0) := by
    simp [Numeral.value?, habsorb]
  simp only [number, hnumeral, hrange, hvalue]
  rfl

-- A number of another form, or a larger one, is no natural number; it need not even be a double.
theorem number_of_other (h : IsNumber cs)
    (hother : IsWhole cs → maxUnsigned < Nat.ofDigitChars 10 cs 0) (hrest : Detached rest) :
    number (cs.map some ++ rest) = .ok (none, rest) ∨
      number (cs.map some ++ rest) = .error .malformed := by
  obtain ⟨n, hn, hparts⟩ := numeral_spelled h hrest
  have hvalue : n.value? = none := by
    rw [Numeral.value?]
    simp only [ite_eq_left_iff, Bool.not_eq_true, Bool.or_eq_false_iff]
    rintro ⟨⟨⟨hnegative, hleft⟩, hfraction⟩, hexponent⟩
    exfalso
    have hfraction' : n.fraction = [] := by simpa using hfraction
    have hexponent' : n.exponent = none := by simpa using hexponent
    obtain ⟨hwhole, hdigits⟩ := hparts hnegative hfraction' hexponent'
    have hlarge := hother hwhole
    rw [← foldl_digitsOf, ← hdigits] at hlarge
    have hleft' : (absorb 0 n.whole).2 = 0 := by simpa using hleft
    exact absorb_of_lt (Nat.zero_le _) hlarge hleft'
  rw [number, hn]
  simp only [hvalue]
  cases n.isOutOfRange with
  | true => exact .inr rfl
  | false => exact .inl rfl

theorem skipNumber_spelled (h : IsNumber cs) (hrest : Detached rest) :
    skipNumber (cs.map some ++ rest) = .ok ((), rest) := by
  obtain ⟨n, hn, -⟩ := numeral_spelled h hrest
  rw [skipNumber, hn]

end Values

end ChallengeLogin.Json
