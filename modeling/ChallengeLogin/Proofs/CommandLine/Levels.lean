import Mathlib.Data.List.Basic
import ChallengeLogin.CommandLine.Option
import ChallengeLogin.Proofs.Json.Grammar
import ChallengeLogin.Proofs.Text.Case
import ChallengeLogin.Proofs.Text.Trimming

namespace ChallengeLogin.CommandLine

open ChallengeLogin.Text
open ChallengeLogin.Json (IsDigits)

section Counts

variable {cs digits : List Char} {c d : Char} {n : Nat}

-- A number as people type it: digits, zeros in front or not, and one plus sign at most
def Counts (cs : List Char) (n : Nat) : Prop :=
  ∃ digits, (cs = digits ∨ cs = '+' :: digits) ∧ IsDigits digits ∧
    Nat.ofDigitChars 10 digits 0 = n

theorem decimalValue_eq (cs : List Char) : decimalValue cs = Nat.ofDigitChars 10 cs 0 := by
  rw [Nat.ofDigitChars_eq_foldl, decimalValue]
  congr 1
  funext n c
  rw [Nat.mul_comm]
  rfl

theorem isDigits_iff : IsDigits digits ↔ (digits.isEmpty || !digits.all isDigit) = false := by
  have hall : digits.all isDigit = true ↔ ∀ c ∈ digits, c.isDigit = true := List.all_eq_true
  rw [IsDigits, ← hall, Bool.or_eq_false_iff, Bool.not_eq_false', List.isEmpty_eq_false_iff]

-- Behind a sign, or where there is none, a number is read by its digits.
theorem natural?_of_digits (hcs : cs = '+' :: digits ∨ cs = digits ∧ cs.head? ≠ some '+') :
    natural? cs = some n ↔ IsDigits digits ∧ Nat.ofDigitChars 10 digits 0 = n := by
  have hread : natural? cs =
      if digits.isEmpty || !digits.all isDigit then none else some (decimalValue digits) := by
    rcases hcs with rfl | ⟨rfl, hsign⟩
    · rfl
    · unfold natural?
      split
      · exact absurd rfl hsign
      · rfl
  rw [hread, isDigits_iff, decimalValue_eq]
  cases digits.isEmpty || !digits.all isDigit <;> simp

theorem natural?_eq_some_iff : natural? cs = some n ↔ Counts cs n := by
  constructor
  · intro h
    by_cases hsign : cs.head? = some '+'
    · obtain ⟨digits, rfl⟩ := List.head?_eq_some_iff.mp hsign
      exact ⟨digits, .inr rfl, (natural?_of_digits (.inl rfl)).mp h⟩
    · exact ⟨cs, .inl rfl, (natural?_of_digits (.inr ⟨rfl, hsign⟩)).mp h⟩
  · rintro ⟨digits, rfl | rfl, hdigits, hvalue⟩
    · refine (natural?_of_digits (.inr ⟨rfl, fun hsign => ?_⟩)).mpr ⟨hdigits, hvalue⟩
      have hfirst := hdigits.2 '+' (List.mem_of_head? hsign)
      exact absurd hfirst (by decide)
    · exact (natural?_of_digits (.inl rfl)).mpr ⟨hdigits, hvalue⟩

-- An ASCII character that is no letter
def IsCaseless (d : Char) : Prop :=
  IsOwn d ∧ d.isLower = false ∧ d.toLower = d

-- What is no letter is the lower case of itself alone.
theorem toLower_eq_iff (hd : IsCaseless d) : c.toLower = d ↔ c = d := by
  obtain ⟨-, hletter, hself⟩ := hd
  constructor
  · intro h
    rcases Nat.lt_or_ge c.toNat 0x80 with hc | hc
    · have hall : ∀ n < 0x80, (Char.ofNat n).toLower.isLower = false →
          (Char.ofNat n).toLower = Char.ofNat n := by decide +kernel
      have hstays := hall c.toNat hc
      rw [Char.ofNat_toNat, h] at hstays
      exact (hstays hletter).symm
    · rw [← h, Hex.toLower_of_le hc]
  · rintro rfl
    exact hself

theorem isCaseless_of_isDigit (h : d.isDigit = true) : IsCaseless d := by
  have hall : ∀ n < 0x80, (Char.ofNat n).isDigit = true → IsOwn (Char.ofNat n) ∧
      (Char.ofNat n).isLower = false ∧ (Char.ofNat n).toLower = Char.ofNat n := by
    decide +kernel
  have hbelow : d.toNat < 0x80 := by
    simp only [Char.isDigit, Bool.and_eq_true, decide_eq_true_eq, UInt32.le_iff_toNat_le] at h
    exact Nat.lt_of_le_of_lt h.2 (by decide)
  have hd := hall d.toNat hbelow
  rw [Char.ofNat_toNat] at hd
  exact hd h

theorem Counts.isCaseless (h : Counts cs n) : ∀ d ∈ cs, IsCaseless d := by
  obtain ⟨digits, rfl | rfl, hdigits, -⟩ := h
  · exact fun d hd => isCaseless_of_isDigit (hdigits.2 d hd)
  · refine List.forall_mem_cons.mpr ⟨⟨by decide, rfl, rfl⟩, fun d hd => ?_⟩
    exact isCaseless_of_isDigit (hdigits.2 d hd)

-- A number has no letters, so that it is the lower case of itself alone.
theorem lowerCase_eq_of_counts (h : Counts digits n) : lowerCase cs = digits ↔ cs = digits := by
  have hcaseless := h.isCaseless
  rw [lowerCase_eq_iff fun d hd => (hcaseless d hd).1]
  constructor
  · rintro rfl
    refine (List.map_id cs).symm.trans (List.map_congr_left fun c hc => ?_)
    exact (toLower_eq_iff (hcaseless _ (List.mem_map_of_mem hc))).mp rfl
  · rintro rfl
    refine (List.map_congr_left fun c hc => ?_).trans (List.map_id cs)
    exact (toLower_eq_iff (hcaseless c hc)).mpr rfl

theorem counts_lowerCase : Counts (lowerCase cs) n ↔ Counts cs n := by
  constructor
  · intro h
    rwa [(lowerCase_eq_of_counts h).mp rfl]
  · intro h
    rwa [(lowerCase_eq_of_counts h).mpr rfl]

end Counts

section Names

variable {cs core : List Char} {name text : String} {n : Nat}

-- The name of the level for a number of steps, no matter the case of its letters
def NamesLevel (cs : List Char) (n : Nat) : Prop :=
  ∃ name, ["error", "warn", "info", "debug", "trace"][n]? = some name ∧
    cs.map Char.toLower = name.toList

-- What stands for a number of steps
def StandsFor (cs : List Char) (n : Nat) : Prop :=
  NamesLevel cs n ∨ Counts cs n ∧ n ≤ 4

theorem isOwn_of_mem_levelNames :
    ∀ name ∈ levelNames, ∀ d ∈ name.toList, d.toNat < 0x80 ∧ d ≠ 'k' := by
  have hall : ∀ name ∈ levelNames,
      name.toList.all (fun d => decide (d.toNat < 0x80 ∧ d ≠ 'k')) = true := by decide
  intro name hname d hd
  exact of_decide_eq_true (List.all_eq_true.mp (hall name hname) d hd)

theorem idxOf?_levelNames : levelNames.idxOf? name = some n ↔ levelNames[n]? = some name := by
  constructor
  · intro h
    obtain ⟨hn, hname, -⟩ := List.idxOf?_eq_some_iff.mp h
    exact List.getElem?_eq_some_iff.mpr ⟨hn, hname⟩
  · intro h
    have hall : ∀ i < 5, levelNames[i]?.bind (levelNames.idxOf? ·) = some i := by decide
    have hn : n < 5 := (List.getElem?_eq_some_iff.mp h).1
    have hname := hall n hn
    rwa [h] at hname

theorem namesLevel_iff :
    NamesLevel cs n ↔ levelNames.idxOf? (String.ofList (lowerCase cs)) = some n := by
  rw [idxOf?_levelNames, levelNames]
  constructor
  · rintro ⟨name, hname, hcs⟩
    have hlower := (lowerCase_eq_iff
      (isOwn_of_mem_levelNames name (List.mem_of_getElem? hname))).mpr hcs
    rw [hlower, String.ofList_toList, hname]
  · intro hname
    have hown := isOwn_of_mem_levelNames _ (List.mem_of_getElem? hname)
    rw [String.toList_ofList] at hown
    refine ⟨_, hname, ?_⟩
    rw [String.toList_ofList]
    exact (lowerCase_eq_iff hown).mp rfl

theorem stepsOf_of_trims (hcore : Trims isBlank text.toList core) :
    stepsOf text =
      match (natural? (lowerCase core)).filter (· < 5) with
      | some n => .ok n
      | none => (levelNames.idxOf? (String.ofList (lowerCase core))).elim (.error badLevel) .ok := by
  rw [stepsOf, trim_eq_iff.mpr hcore]
  show (match (natural? (lowerCase core)).filter (· < 5) with | some n => _ | none => _) = _
  split
  · rfl
  · cases levelNames.idxOf? (String.ofList (lowerCase core)) <;> rfl

theorem counts_iff :
    Counts cs n ∧ n ≤ 4 ↔ (natural? (lowerCase cs)).filter (· < 5) = some n := by
  rw [Option.filter_eq_some_iff, natural?_eq_some_iff, counts_lowerCase, decide_eq_true_eq,
    Nat.lt_succ_iff]

-- No text is both a number and a name.
theorem not_namesLevel_of_counts (h : Counts cs n) (m : Nat) : ¬NamesLevel cs m := by
  rintro ⟨name, hname, hcs⟩
  have hany : ∀ name ∈ levelNames, name.toList.any (·.isLower) = true := by decide
  obtain ⟨d, hd, hletter⟩ := List.any_eq_true.mp (hany name (List.mem_of_getElem? hname))
  rw [← hcs] at hd
  obtain ⟨c, hc, rfl⟩ := List.mem_map.mp hd
  obtain ⟨-, hnone, hself⟩ := h.isCaseless c hc
  rw [hself, hnone] at hletter
  cases hletter

theorem stepsOf_eq_ok_iff (hcore : Trims isBlank text.toList core) :
    stepsOf text = .ok n ↔ StandsFor core n := by
  rw [stepsOf_of_trims hcore, StandsFor, counts_iff]
  cases hcount : (natural? (lowerCase core)).filter (· < 5) with
  | some m =>
    have hunnamed := not_namesLevel_of_counts (counts_iff.mpr hcount).1 n
    simp only [hunnamed, false_or, Except.ok.injEq, Option.some.injEq]
  | none =>
    rw [namesLevel_iff]
    cases levelNames.idxOf? (String.ofList (lowerCase core)) <;> simp

-- Every refusal is told in the same words.
theorem stepsOf_eq_error_iff (hcore : Trims isBlank text.toList core) :
    stepsOf text = .error badLevel ↔ ∀ n, ¬StandsFor core n := by
  simp only [← stepsOf_eq_ok_iff hcore, stepsOf_of_trims hcore]
  cases (natural? (lowerCase core)).filter (· < 5) with
  | some m => simp
  | none => cases levelNames.idxOf? (String.ofList (lowerCase core)) <;> simp

end Names

-- What stands between the blanks of a text decides whether it is read as a number of steps, and as
-- which one: the name of a level or a number up to four. Every other text is refused.
theorem stepsOf_decided_by_core (text : String) :
    ∃ core, Trims isBlank text.toList core ∧
      (∀ n, stepsOf text = .ok n ↔ NamesLevel core n ∨ Counts core n ∧ n ≤ 4) ∧
      (stepsOf text = .error badLevel ↔
        ∀ n, ¬(NamesLevel core n ∨ Counts core n ∧ n ≤ 4)) := by
  have hcore := trims_trim isBlank text.toList
  exact ⟨_, hcore, fun _ => stepsOf_eq_ok_iff hcore, stepsOf_eq_error_iff hcore⟩

-- The sign for kelvin, the capital with a dot and full-width letters make no names and no numbers.
example : ["\u2003dEbUg\n", "+0004", "\u0130nfo", "trace\u212A", "\uFF29nfo", "++1", "5", "-0"].map
    stepsOf = [.ok 3, .ok 4] ++ List.replicate 6 (.error badLevel) := by
  decide +kernel

end ChallengeLogin.CommandLine
