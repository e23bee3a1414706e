import Mathlib.AlgebraicGeometry.EllipticCurve.Affine.Point
import Mathlib.Tactic.FieldSimp
import ChallengeLogin.Proofs.Curve.Field

namespace ChallengeLogin.Curve

open WeierstrassCurve.Affine

section Weierstrass

-- The curve y² = x³ + 7
def curve : WeierstrassCurve.Affine Residue :=
  ⟨0, 0, 0, 0, 7⟩

variable {x y x₁ x₂ y₁ y₂ z₁ z₂ : Residue}

@[simp] theorem curve_a₁ : curve.a₁ = 0 := rfl

@[simp] theorem curve_a₂ : curve.a₂ = 0 := rfl

@[simp] theorem curve_a₃ : curve.a₃ = 0 := rfl

@[simp] theorem curve_a₄ : curve.a₄ = 0 := rfl

@[simp] theorem curve_negY (x y : Residue) : curve.negY x y = -y := by
  simp [WeierstrassCurve.Affine.negY]

theorem residue_ne_zero {n : ℕ} (hpos : 0 < n) (hlt : n < fieldOrder) : (n : Residue) ≠ 0 := by
  rw [Ne, Field.cast_eq_zero_iff hlt]
  exact hpos.ne'

theorem residue_two_ne_zero : (2 : Residue) ≠ 0 :=
  residue_ne_zero (n := 2) (by decide) (by decide)

theorem slope_double (hy : y ≠ -y) : curve.slope x x y y = 3 * x ^ 2 / (2 * y) := by
  rw [slope_of_Y_ne rfl (by rwa [curve_negY])]
  simp [WeierstrassCurve.Affine.negY, two_mul]

theorem slope_chord (hx : x₁ ≠ x₂) : curve.slope x₁ x₂ y₁ y₂ = (y₂ - y₁) / (x₂ - x₁) := by
  rw [slope_of_X_ne hx, ← neg_sub y₂, ← neg_sub x₂, neg_div_neg_eq]

theorem curve_equation_iff : curve.Equation x y ↔ y ^ 2 = x ^ 3 + 7 := by
  rw [WeierstrassCurve.Affine.equation_iff]
  simp [curve]

-- The discriminant is -432 * 49, which the order of the field does not divide.
theorem discriminant_ne_zero : WeierstrassCurve.Δ curve ≠ 0 := by
  have hΔ : WeierstrassCurve.Δ curve = -((21168 : ℕ) : Residue) := by
    simp only [curve, WeierstrassCurve.Δ, WeierstrassCurve.b₂, WeierstrassCurve.b₄,
      WeierstrassCurve.b₆, WeierstrassCurve.b₈]
    push_cast
    ring
  rw [hΔ, Ne, neg_eq_zero]
  exact residue_ne_zero (by decide) (by decide)

theorem curve_nonsingular_iff : curve.Nonsingular x y ↔ y ^ 2 = x ^ 3 + 7 := by
  rw [← curve_equation_iff]
  exact (equation_iff_nonsingular_of_Δ_ne_zero discriminant_ne_zero).symm

theorem eq_or_eq_neg_of_same_x (h₁ : curve.Nonsingular x₁ y₁) (h₂ : curve.Nonsingular x₂ y₂)
    (hx : x₁ = x₂) : y₁ = y₂ ∨ y₁ = -y₂ := by
  rw [← sq_eq_sq_iff_eq_or_eq_neg, curve_nonsingular_iff.mp h₁,
    curve_nonsingular_iff.mp h₂, hx]

theorem scaled_eq_iff (h₁ : z₁ ≠ 0) (h₂ : z₂ ≠ 0) {n : ℕ} :
    x₁ * z₁ ^ n * z₂ ^ n = x₂ * z₂ ^ n * z₁ ^ n ↔ x₁ = x₂ := by
  rw [mul_assoc, mul_assoc, mul_comm (z₂ ^ n),
    mul_left_inj' (mul_ne_zero (pow_ne_zero n h₁) (pow_ne_zero n h₂))]

end Weierstrass

-- A triple of residues with the coordinates x and y
structure Scaled (p : Point) (x y : Residue) : Prop where
  y_lt : p.y < fieldOrder
  z_lt : p.z < fieldOrder
  z_ne : p.z ≠ 0
  x_eq : (p.x : Residue) = x * (p.z : Residue) ^ 2
  y_eq : (p.y : Residue) = y * (p.z : Residue) ^ 3

namespace Scaled

open ChallengeLogin.Curve.Field

variable {p q : Point} {x y x₁ y₁ x₂ y₂ : Residue}

theorem cast_z_ne (h : Scaled p x y) : (p.z : Residue) ≠ 0 := by
  rw [Ne, cast_eq_zero_iff h.z_lt]
  exact h.z_ne

theorem y_eq_zero_iff (h : Scaled p x y) : p.y = 0 ↔ y = 0 := by
  rw [← cast_eq_zero_iff h.y_lt, h.y_eq]
  simp [h.cast_z_ne]

theorem ofAffine {x y : ℕ} (hy : y < fieldOrder) : Scaled (Point.ofAffine x y) x y := by
  refine ⟨hy, Nat.one_lt_ofNat, one_ne_zero, ?_, ?_⟩ <;> simp [Point.ofAffine]

theorem neg (h : Scaled p x y) : Scaled p.neg x (-y) := by
  refine ⟨sub_lt _ _, h.z_lt, h.z_ne, h.x_eq, ?_⟩
  simp [Point.neg, h.y_eq]

theorem double (h : Scaled p x y) (hy : y ≠ 0) (hne : y ≠ -y) :
    Scaled p.double (curve.addX x x (curve.slope x x y y))
      (curve.addY x x y (curve.slope x x y y)) := by
  have hz := h.cast_z_ne
  have htwo := residue_two_ne_zero
  rw [Point.double, if_neg (by simp [h.z_ne, h.y_eq_zero_iff, hy])]
  refine ⟨sub_lt _ _, mul_lt _ _, ?_, ?_, ?_⟩
  · rw [Ne, ← cast_eq_zero_iff (mul_lt _ _)]
    simp [h.y_eq, hz, hy, htwo]
  · simp only [cast_sub, cast_mul, h.x_eq, h.y_eq, slope_double hne, addX, curve_a₁, curve_a₂,
      Nat.cast_ofNat]
    field_simp
    ring
  · simp only [cast_sub, cast_mul, h.x_eq, h.y_eq, slope_double hne, addY, negAddY, addX,
      curve_negY, curve_a₁, curve_a₂, Nat.cast_ofNat]
    field_simp
    ring

-- Coordinates are compared by scaling each by the other's denominator.
theorem x_eq_iff (hp : Scaled p x₁ y₁) (hq : Scaled q x₂ y₂) :
    mul p.x (mul q.z q.z) = mul q.x (mul p.z p.z) ↔ x₁ = x₂ := by
  rw [← cast_inj (mul_lt _ _) (mul_lt _ _)]
  simp only [cast_mul, hp.x_eq, hq.x_eq, ← sq, scaled_eq_iff hp.cast_z_ne hq.cast_z_ne]

theorem y_eq_iff (hp : Scaled p x₁ y₁) (hq : Scaled q x₂ y₂) :
    mul p.y (mul (mul q.z q.z) q.z) = mul q.y (mul (mul p.z p.z) p.z) ↔ y₁ = y₂ := by
  rw [← cast_inj (mul_lt _ _) (mul_lt _ _)]
  simp only [cast_mul, hp.y_eq, hq.y_eq, ← pow_three', scaled_eq_iff hp.cast_z_ne hq.cast_z_ne]

theorem add (hp : Scaled p x₁ y₁) (hq : Scaled q x₂ y₂) (hx : x₁ ≠ x₂) :
    Scaled (p.add q) (curve.addX x₁ x₂ (curve.slope x₁ x₂ y₁ y₂))
      (curve.addY x₁ x₂ y₁ (curve.slope x₁ x₂ y₁ y₂)) := by
  have hpz := hp.cast_z_ne
  have hqz := hq.cast_z_ne
  have hd : x₂ - x₁ ≠ 0 := sub_ne_zero.mpr (Ne.symm hx)
  rw [Point.add, if_neg hp.z_ne, if_neg hq.z_ne]
  simp only [if_neg (mt (hp.x_eq_iff hq).mp hx)]
  refine ⟨sub_lt _ _, mul_lt _ _, ?_, ?_, ?_⟩
  · rw [Ne, ← cast_eq_zero_iff (mul_lt _ _)]
    have hh : x₂ * (q.z : Residue) ^ 2 * ((p.z : Residue) * p.z) -
        x₁ * (p.z : Residue) ^ 2 * ((q.z : Residue) * q.z) =
        (x₂ - x₁) * ((p.z : Residue) ^ 2 * (q.z : Residue) ^ 2) := by ring
    simp [hp.x_eq, hq.x_eq, hh, hd, hpz, hqz]
  · simp only [cast_sub, cast_mul, hp.x_eq, hq.x_eq, hp.y_eq, hq.y_eq, slope_chord hx, addX,
      curve_a₁, curve_a₂, Nat.cast_ofNat]
    field_simp
    ring
  · simp only [cast_sub, cast_mul, hp.x_eq, hq.x_eq, hp.y_eq, hq.y_eq, slope_chord hx, addY,
      negAddY, addX, curve_negY, curve_a₁, curve_a₂, Nat.cast_ofNat]
    field_simp
    ring

theorem toAffine (h : Scaled p x y) : p.toAffine = some (x.val, y.val) := by
  have hz := h.cast_z_ne
  have hx : mul p.x (mul (inv p.z) (inv p.z)) = x.val := by
    rw [← cast_inj (mul_lt _ _) (ZMod.val_lt _), ZMod.natCast_zmod_val]
    simp only [cast_mul, cast_inv, h.x_eq]
    field_simp
  have hy : mul p.y (mul (mul (inv p.z) (inv p.z)) (inv p.z)) = y.val := by
    rw [← cast_inj (mul_lt _ _) (ZMod.val_lt _), ZMod.natCast_zmod_val]
    simp only [cast_mul, cast_inv, h.y_eq]
    field_simp
  rw [Point.toAffine, if_neg h.z_ne]
  simp only [hx, hy]

end Scaled

-- Which triples stand for a point of the curve
inductive Represents : Point → curve.Point → Prop
  | neutral {p : Point} (hz : p.z = 0) : Represents p 0
  | finite {p : Point} {x y : Residue} (h : curve.Nonsingular x y) (hp : Scaled p x y) :
      Represents p (.some x y h)

namespace Represents

variable {p q : Point} {P Q : curve.Point}

theorem z_eq_zero_iff (h : Represents p P) : p.z = 0 ↔ P = 0 := by
  cases h with
  | neutral hz => simp [hz]
  | finite _ hp => simp [hp.z_ne]

theorem neg (h : Represents p P) : Represents p.neg (-P) := by
  cases h with
  | neutral hz =>
    rw [WeierstrassCurve.Affine.Point.neg_zero]
    exact .neutral hz
  | finite h hp =>
    rw [WeierstrassCurve.Affine.Point.neg_some]
    refine .finite _ ?_
    rw [curve_negY]
    exact hp.neg

theorem double (h : Represents p P) : Represents p.double (P + P) := by
  cases h with
  | neutral hz =>
    rw [add_zero, Point.double, if_pos (by simp [hz])]
    exact .neutral rfl
  | @finite x y h hp =>
    by_cases hy : y = 0
    · rw [WeierstrassCurve.Affine.Point.add_self_of_Y_eq (by simp [hy]), Point.double,
        if_pos (by simp [hp.y_eq_zero_iff, hy])]
      exact .neutral rfl
    · have hne : y ≠ -y := by
        rw [Ne, eq_neg_iff_add_eq_zero, ← two_mul]
        exact mul_ne_zero residue_two_ne_zero hy
      rw [WeierstrassCurve.Affine.Point.add_self_of_Y_ne (by rwa [curve_negY])]
      exact .finite _ (hp.double hy hne)

theorem add (hp : Represents p P) (hq : Represents q Q) : Represents (p.add q) (P + Q) := by
  cases hp with
  | neutral hz =>
    rw [zero_add, Point.add, if_pos hz]
    exact hq
  | @finite x₁ y₁ h₁ hp =>
  cases hq with
  | neutral hz =>
    rw [add_zero, Point.add, if_neg hp.z_ne, if_pos hz]
    exact .finite h₁ hp
  | @finite x₂ y₂ h₂ hq =>
    by_cases hx : x₁ = x₂
    · rw [Point.add, if_neg hp.z_ne, if_neg hq.z_ne]
      simp only [if_pos ((hp.x_eq_iff hq).mpr hx)]
      by_cases hy : y₁ = y₂
      · have hpq : (.some x₂ y₂ h₂ : curve.Point) = .some x₁ y₁ h₁ := by simp [hx, hy]
        rw [if_pos ((hp.y_eq_iff hq).mpr hy), hpq]
        exact (Represents.finite h₁ hp).double
      · have hopposite : y₁ = -y₂ := (eq_or_eq_neg_of_same_x h₁ h₂ hx).resolve_left hy
        rw [if_neg (mt (hp.y_eq_iff hq).mp hy),
          WeierstrassCurve.Affine.Point.add_of_Y_eq hx (by rw [curve_negY, hopposite])]
        exact .neutral rfl
    · rw [WeierstrassCurve.Affine.Point.add_of_X_ne hx]
      exact .finite _ (hp.add hq hx)

theorem smul (h : Represents p P) (k : ℕ) : Represents (p.smul k) (k • P) := by
  induction k using Nat.strongRecOn generalizing p P with
  | _ k ih =>
    rw [Point.smul]
    by_cases hk : k = 0
    · rw [dif_pos hk, hk, zero_nsmul]
      exact .neutral rfl
    have hrest : Represents (p.double.smul (k / 2)) ((2 * (k / 2)) • P) := by
      rw [mul_comm, mul_nsmul', two_nsmul]
      exact ih (k / 2) (by omega) h.double
    rw [dif_neg hk]
    by_cases hodd : k % 2 = 1
    · have hsplit : k • P = P + (2 * (k / 2)) • P := by
        rw [← succ_nsmul']
        congr 1
        omega
      simp only [if_pos hodd]
      rw [hsplit]
      exact h.add hrest
    · have hsplit : 2 * (k / 2) = k := by omega
      simp only [if_neg hodd]
      rwa [hsplit] at hrest

theorem toAffine {x y : Residue} {hxy : curve.Nonsingular x y}
    (h : Represents p (.some x y hxy)) : p.toAffine = some (x.val, y.val) := by
  cases h with
  | finite _ hp => exact hp.toAffine

theorem toAffine_zero (h : Represents p 0) : p.toAffine = none := by
  rw [Point.toAffine, if_pos (h.z_eq_zero_iff.mpr rfl)]

end Represents

end ChallengeLogin.Curve
