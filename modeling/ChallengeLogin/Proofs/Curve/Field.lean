import Mathlib.FieldTheory.Finite.Basic
import Mathlib.Tactic.LinearCombination
import ChallengeLogin.Proofs.Curve.Prime

namespace ChallengeLogin.Curve

instance : Fact fieldOrder.Prime := ⟨prime_fieldOrder⟩

-- The field of the curve
abbrev Residue := ZMod fieldOrder

theorem fieldOrder_pos : 0 < fieldOrder := by decide

theorem fieldOrder_odd : fieldOrder % 2 = 1 := by decide

namespace Field

section Cast

variable (a b : ℕ)

@[simp] theorem cast_add : (add a b : Residue) = a + b := by
  rw [add, ZMod.natCast_mod, Nat.cast_add]

@[simp] theorem cast_mul : (mul a b : Residue) = a * b := by
  rw [mul, ZMod.natCast_mod, Nat.cast_mul]

@[simp] theorem cast_sub : (sub a b : Residue) = a - b := by
  have hle : b % fieldOrder ≤ fieldOrder := (Nat.mod_lt b fieldOrder_pos).le
  rw [sub, ZMod.natCast_mod, Nat.cast_add, Nat.cast_sub hle, ZMod.natCast_mod, ZMod.natCast_self]
  ring

@[simp] theorem cast_pow (e : ℕ) : (pow a e : Residue) = (a : Residue) ^ e := by
  induction e using Nat.strongRecOn generalizing a with
  | _ e ih =>
    rw [pow]
    by_cases he : e = 0
    · simp [he]
    have hhalf : (pow (mul a a) (e / 2) : Residue) = (a : Residue) ^ (2 * (e / 2)) := by
      rw [ih (e / 2) (by omega), cast_mul, pow_mul, sq]
    rw [dif_neg he]
    simp only
    by_cases hodd : e % 2 = 1
    · rw [if_pos hodd, cast_mul, hhalf, ← pow_succ']
      congr 1
      omega
    · rw [if_neg hodd, hhalf]
      congr 1
      omega

@[simp] theorem cast_inv : (inv a : Residue) = (a : Residue)⁻¹ := by
  rw [inv, cast_pow]
  by_cases ha : (a : Residue) = 0
  · rw [ha, inv_zero, zero_pow (by decide)]
  · apply eq_inv_of_mul_eq_one_left
    rw [← pow_succ]
    exact ZMod.pow_card_sub_one_eq_one ha

end Cast

section Residues

variable {a b : ℕ}

theorem mul_lt (a b : ℕ) : mul a b < fieldOrder := Nat.mod_lt _ fieldOrder_pos

theorem sub_lt (a b : ℕ) : sub a b < fieldOrder := Nat.mod_lt _ fieldOrder_pos

theorem cast_inj (ha : a < fieldOrder) (hb : b < fieldOrder) : (a : Residue) = b ↔ a = b := by
  rw [ZMod.natCast_eq_natCast_iff', Nat.mod_eq_of_lt ha, Nat.mod_eq_of_lt hb]

theorem cast_eq_zero_iff (ha : a < fieldOrder) : (a : Residue) = 0 ↔ a = 0 := by
  rw [← Nat.cast_zero, cast_inj ha fieldOrder_pos]

theorem val_cast (ha : a < fieldOrder) : (a : Residue).val = a :=
  ZMod.val_cast_of_lt ha

theorem pow_lt (a e : ℕ) : pow a e < fieldOrder := by
  induction e using Nat.strongRecOn generalizing a with
  | _ e ih =>
    rw [pow]
    by_cases he : e = 0
    · rw [dif_pos he]
      decide
    rw [dif_neg he]
    by_cases hodd : e % 2 = 1
    · simp only [if_pos hodd]
      exact mul_lt _ _
    · simp only [if_neg hodd]
      exact ih (e / 2) (by omega) _

-- The order is 3 modulo 4, so that a square raised to a quarter of the next number is a root of it.
theorem sqrt_of_sq {y : Residue} (h : (a : Residue) = y * y) :
    ∃ r, sqrt a = some r ∧ r < fieldOrder ∧ ((r : Residue) = y ∨ (r : Residue) = -y) := by
  have hexp : (fieldOrder + 1) / 4 + (fieldOrder + 1) / 4 = (fieldOrder + 1) / 2 := by decide
  have hexp' : 2 * ((fieldOrder + 1) / 2) = fieldOrder + 1 := by decide
  have hsq : (mul (pow a ((fieldOrder + 1) / 4)) (pow a ((fieldOrder + 1) / 4)) : Residue) =
      y * y := by
    rw [cast_mul, cast_pow, ← pow_add, hexp, h, ← sq, ← pow_mul, hexp', pow_succ, ZMod.pow_card,
      sq]
  have hroot : mul (pow a ((fieldOrder + 1) / 4)) (pow a ((fieldOrder + 1) / 4)) =
      a % fieldOrder := by
    rw [← cast_inj (mul_lt _ _) (Nat.mod_lt a fieldOrder_pos), hsq, ZMod.natCast_mod, h]
  refine ⟨pow a ((fieldOrder + 1) / 4), ?_, pow_lt _ _, ?_⟩
  · simp only [sqrt, if_pos hroot]
  · rw [cast_mul] at hsq
    exact mul_self_eq_mul_self_iff.mp hsq

end Residues

end Field

end ChallengeLogin.Curve
