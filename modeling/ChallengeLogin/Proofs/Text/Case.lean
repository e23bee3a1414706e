import ChallengeLogin.Proofs.Text.Spelling
import ChallengeLogin.Proofs.Text.Utf8
import ChallengeLogin.Text.Case

namespace ChallengeLogin.Text

section Tables

variable {c : Char} {n : Nat}

-- The numbers of characters beyond ASCII
def IsBeyond (n : Nat) : Prop :=
  0x80 ≤ n ∧ n < 0xD800 ∨ 0xDFFF < n ∧ n < 0x110000

instance : DecidablePred IsBeyond :=
  fun n => inferInstanceAs (Decidable (0x80 ≤ n ∧ n < 0xD800 ∨ 0xDFFF < n ∧ n < 0x110000))

-- The sign for kelvin, whose lower case is the letter
def kelvin : Nat :=
  0x212A

-- A run has the lower case of all its capitals in one stretch of characters.
theorem runs_beyond : ∀ span ∈ Case.runs, span.first = kelvin ∧ span.last = kelvin ∨
    0x80 ≤ span.value ∧ span.value + (span.last - span.first) < 0xD800 ∨
    0xDFFF < span.value ∧ span.value + (span.last - span.first) < 0x110000 := by
  decide +kernel

theorem turns_below : ∀ turn ∈ Case.turns, turn.2 + 1 < 0xD800 := by
  decide +kernel

theorem isBeyond_lowerPoint (h : IsBeyond n) (hkelvin : n ≠ kelvin) :
    IsBeyond (Case.lowerPoint n) := by
  unfold Case.lowerPoint
  split
  · rename_i span hfind
    have hspan := runs_beyond span (List.mem_of_find?_eq_some hfind)
    have hin := List.find?_some hfind
    simp only [Bool.and_eq_true, decide_eq_true_eq] at hin
    unfold IsBeyond
    omega
  · split
    · rename_i turn hfind
      have hturn := turns_below turn (List.mem_of_find?_eq_some hfind)
      have hin := List.find?_some hfind
      simp only [Bool.and_eq_true, decide_eq_true_eq] at hin
      unfold IsBeyond at h ⊢
      split
      · omega
      · omega
    · exact h

theorem toNat_ofNat (h : IsBeyond n) : (Char.ofNat n).toNat = n := by
  have hvalid : n.isValidChar := by
    rcases h with ⟨-, h⟩ | ⟨hlow, h⟩
    · exact .inl h
    · exact .inr ⟨hlow, h⟩
  rw [Char.ofNat, dif_pos hvalid]
  rfl

theorem isBeyond_toNat (h : 0x80 ≤ c.toNat) : IsBeyond c.toNat := by
  obtain ⟨hscalar, htop⟩ := Utf8.toNat_scalar c
  unfold IsBeyond
  omega

end Tables

section Texts

variable {c : Char} {cs target : List Char}

-- An ASCII character that is not in the lower case of anything else
def IsOwn (c : Char) : Prop :=
  c.toNat < 0x80 ∧ c ≠ 'k'

instance : DecidablePred IsOwn :=
  fun c => inferInstanceAs (Decidable (c.toNat < 0x80 ∧ c ≠ 'k'))

theorem lowerChar_of_ascii (h : c.toNat < 0x80) : lowerChar c = [c.toLower] := by
  have hall : ∀ n < 0x80, lowerChar (Char.ofNat n) = [(Char.ofNat n).toLower] := by decide +kernel
  have hc := hall c.toNat h
  rwa [Char.ofNat_toNat] at hc

-- The lower case of a character beyond ASCII shows that it was one.
theorem exists_not_isOwn (h : 0x80 ≤ c.toNat) : ∃ d ∈ lowerChar c, ¬IsOwn d := by
  have hcapital : ¬('A' ≤ c ∧ c ≤ 'Z') := by
    rintro ⟨-, hle⟩
    have hz : c.toNat ≤ 90 := UInt32.le_iff_toNat_le.mp hle
    omega
  by_cases hdot : c = '\u0130'
  · subst hdot
    exact ⟨'\u0307', by decide, by decide⟩
  have hlower : lowerChar c = [Char.ofNat (Case.lowerPoint c.toNat)] := by
    rw [lowerChar, if_neg hcapital, if_neg (Nat.not_lt.mpr h), if_neg hdot]
  refine ⟨_, hlower ▸ List.mem_singleton_self _, ?_⟩
  by_cases hkelvin : c.toNat = kelvin
  · have hk : Char.ofNat (Case.lowerPoint kelvin) = 'k' := by decide +kernel
    rw [hkelvin, hk]
    exact fun hown => hown.2 rfl
  · have hbeyond := isBeyond_lowerPoint (isBeyond_toNat h) hkelvin
    intro hown
    have hnumber := hown.1
    rw [toNat_ofNat hbeyond] at hnumber
    unfold IsBeyond at hbeyond
    omega

theorem ascii_of_lowerCase (h : ∀ d ∈ lowerCase cs, IsOwn d) : ∀ c ∈ cs, c.toNat < 0x80 := by
  intro c hc
  refine Nat.lt_of_not_le fun hbeyond => ?_
  obtain ⟨d, hd, hnot⟩ := exists_not_isOwn hbeyond
  exact hnot (h d (List.mem_flatMap.mpr ⟨c, hc, hd⟩))

theorem lowerCase_of_ascii (h : ∀ c ∈ cs, c.toNat < 0x80) : lowerCase cs = cs.map Char.toLower := by
  induction cs with
  | nil => rfl
  | cons c cs ih =>
    obtain ⟨hc, hcs⟩ := List.forall_mem_cons.mp h
    rw [lowerCase, List.flatMap_cons, lowerChar_of_ascii hc, List.map_cons, ← ih hcs]
    rfl

theorem ascii_of_toLower (h : ∀ d ∈ cs.map Char.toLower, IsOwn d) : ∀ c ∈ cs, c.toNat < 0x80 := by
  intro c hc
  refine Nat.lt_of_not_le fun hbeyond => ?_
  have hown := h _ (List.mem_map_of_mem hc)
  rw [Hex.toLower_of_le hbeyond] at hown
  exact Nat.not_lt.mpr hbeyond hown.1

-- What is in ASCII is the lower case of the same texts whether all letters count or those of ASCII.
theorem lowerCase_eq_iff (htarget : ∀ d ∈ target, IsOwn d) :
    lowerCase cs = target ↔ cs.map Char.toLower = target := by
  constructor
  · rintro rfl
    exact (lowerCase_of_ascii (ascii_of_lowerCase htarget)).symm
  · rintro rfl
    exact lowerCase_of_ascii (ascii_of_toLower htarget)

end Texts

end ChallengeLogin.Text
