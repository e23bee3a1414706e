import Mathlib.GroupTheory.OrderOfElement
import ChallengeLogin.Proofs.Curve.Group

namespace ChallengeLogin.Curve

instance : Fact groupOrder.Prime := ⟨prime_groupOrder⟩

theorem groupOrder_pos : 0 < groupOrder := by decide

theorem nonsingular_generator :
    curve.Nonsingular (Point.generator.x : Residue) (Point.generator.y : Residue) := by
  have hnat : Field.mul Point.generator.y Point.generator.y = Field.add
      (Field.mul Point.generator.x (Field.mul Point.generator.x Point.generator.x)) 7 := by
    decide +kernel
  rw [curve_nonsingular_iff, sq, ← Field.cast_mul, hnat, Field.cast_add, Field.cast_mul, Field.cast_mul,
    Nat.cast_ofNat, pow_three]

-- The generator as a point of the curve
def basePoint : curve.Point :=
  .some _ _ nonsingular_generator

theorem represents_generator : Represents Point.generator basePoint :=
  .finite nonsingular_generator (Scaled.ofAffine (by decide))

section Order

variable {k : ℕ}

theorem represents_smul_generator (k : ℕ) : Represents (Point.generator.smul k) (k • basePoint) :=
  represents_generator.smul k

theorem groupOrder_nsmul : groupOrder • basePoint = 0 := by
  have hz : (Point.generator.smul groupOrder).z = 0 := by decide +kernel
  exact (represents_smul_generator groupOrder).z_eq_zero_iff.mp hz

theorem addOrderOf_basePoint : addOrderOf basePoint = groupOrder :=
  addOrderOf_eq_prime groupOrder_nsmul (WeierstrassCurve.Affine.Point.some_ne_zero _)

theorem nsmul_basePoint_ne_zero (hpos : 0 < k) (hlt : k < groupOrder) : k • basePoint ≠ 0 := by
  intro hzero
  have hdvd := addOrderOf_dvd_of_nsmul_eq_zero hzero
  rw [addOrderOf_basePoint] at hdvd
  exact absurd (Nat.le_of_dvd hpos hdvd) (by omega)

theorem mod_nsmul_basePoint (k : ℕ) : (k % groupOrder) • basePoint = k • basePoint := by
  rw [← addOrderOf_basePoint, mod_addOrderOf_nsmul]

theorem opposite_nsmul_basePoint (hle : k ≤ groupOrder) :
    (groupOrder - k) • basePoint = -(k • basePoint) := by
  rw [eq_neg_iff_add_eq_zero, ← add_nsmul, Nat.sub_add_cancel hle, groupOrder_nsmul]

end Order

end ChallengeLogin.Curve
