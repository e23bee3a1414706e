import ChallengeLogin.Proofs.Curve.Schnorr

namespace ChallengeLogin.Curve

open ChallengeLogin.Text

-- The number is the x of a point of the curve.
def IsCoordinate (n : ℕ) : Prop :=
  ∃ x y : Residue, curve.Nonsingular x y ∧ x.val = n

-- The point of the curve with an even y that a number names by its x
def EvenPoint (n : ℕ) (P : curve.Point) : Prop :=
  ∃ x y, ∃ h : curve.Nonsingular x y, P = .some x y h ∧ x.val = n ∧ y.val % 2 = 0

section Coordinates

variable {n : ℕ} {p q : Point} {P Q : curve.Point} {x y : Residue}

theorem Field.sq_of_sqrt {a r : ℕ} (h : Field.sqrt a = some r) : (r : Residue) ^ 2 = a := by
  simp only [Field.sqrt] at h
  split at h
  · rename_i hroot
    obtain rfl := Option.some.inj h
    rw [sq, ← Field.cast_mul, hroot, ZMod.natCast_mod]
  · cases h

theorem not_evenPoint_zero : ¬EvenPoint n 0 := by
  rintro ⟨x, y, h, hzero, -⟩
  exact WeierstrassCurve.Affine.Point.some_ne_zero h hzero.symm

theorem evenPoint_some_iff {h : curve.Nonsingular x y} :
    EvenPoint n (.some x y h) ↔ x.val = n ∧ y.val % 2 = 0 := by
  constructor
  · rintro ⟨x, y, h, hpoint, hn⟩
    cases hpoint
    exact hn
  · exact fun hn => ⟨x, y, h, rfl, hn⟩

-- Of two opposite points, one has an even y.
theorem isCoordinate_iff : IsCoordinate n ↔ ∃ P, EvenPoint n P := by
  constructor
  · rintro ⟨x, y, hcurve, hx⟩
    by_cases heven : y.val % 2 = 0
    · exact ⟨_, x, y, hcurve, rfl, hx, heven⟩
    · have hopposite : curve.Nonsingular x (-y) := by
        rwa [curve_nonsingular_iff, neg_sq, ← curve_nonsingular_iff]
      exact ⟨_, x, -y, hopposite, rfl, hx, even_val_neg (by omega)⟩
  · rintro ⟨P, x, y, h, -, hx, -⟩
    exact ⟨x, y, h, hx⟩

theorem EvenPoint.liftX (h : EvenPoint n P) : ∃ p, Point.liftX n = some p ∧ Represents p P := by
  obtain ⟨x, y, hcurve, rfl, rfl, heven⟩ := h
  exact liftX_of_even hcurve heven

theorem isCoordinate_of_liftX (h : Point.liftX n = some p) : IsCoordinate n := by
  rw [Point.liftX] at h
  split at h
  · cases h
  · rename_i hlt
    obtain ⟨r, hsqrt, -⟩ := Option.map_eq_some_iff.mp h
    refine ⟨n, r, ?_, Field.val_cast (by omega)⟩
    rw [curve_nonsingular_iff, Field.sq_of_sqrt hsqrt, Field.cast_add, Field.cast_mul,
      Field.cast_mul, Nat.cast_ofNat, pow_three]

theorem evenPoint_of_liftX (h : Point.liftX n = some p) : ∃ P, EvenPoint n P ∧ Represents p P := by
  obtain ⟨P, hP⟩ := isCoordinate_iff.mp (isCoordinate_of_liftX h)
  obtain ⟨q, hq, hrep⟩ := hP.liftX
  obtain rfl := Option.some.inj (h.symm.trans hq)
  exact ⟨P, hP, hrep⟩

theorem liftX_eq_none_iff : Point.liftX n = none ↔ ¬IsCoordinate n := by
  constructor
  · rintro hnone hn
    obtain ⟨P, hP⟩ := isCoordinate_iff.mp hn
    obtain ⟨p, hp, -⟩ := hP.liftX
    cases hnone.symm.trans hp
  · intro hn
    cases h : Point.liftX n with
    | none => rfl
    | some p => exact absurd (isCoordinate_of_liftX h) hn

-- A triple stands for one point with coordinates only.
theorem Represents.unique {u v : Residue} {hxy : curve.Nonsingular x y}
    {huv : curve.Nonsingular u v} (h : Represents p (.some x y hxy))
    (h' : Represents p (.some u v huv)) : x = u ∧ y = v := by
  have hcoordinates := Option.some.inj (h.toAffine.symm.trans h'.toAffine)
  exact ⟨ZMod.val_injective _ (congrArg Prod.fst hcoordinates),
    ZMod.val_injective _ (congrArg Prod.snd hcoordinates)⟩

theorem EvenPoint.unique (h : EvenPoint n P) (h' : EvenPoint n Q) : P = Q := by
  obtain ⟨p, hp, hP⟩ := h.liftX
  obtain ⟨q, hq, hQ⟩ := h'.liftX
  obtain rfl := Option.some.inj (hp.symm.trans hq)
  obtain ⟨x, y, hxy, rfl, -⟩ := h
  obtain ⟨u, v, huv, rfl, -⟩ := h'
  obtain ⟨rfl, rfl⟩ := hP.unique hQ
  rfl

end Coordinates

namespace Schnorr

-- The point that the response of a signature and its challenge lead to
noncomputable def reached (P : curve.Point) (pubkey message signature : Bytes) : curve.Point :=
  natOfBytes (signature.drop 32) • basePoint - challenge (signature.take 32) pubkey message • P

-- The check of a signature under a public key: a response below the order, and the point that is
-- reached has an even y and the x that the signature begins with.
def Valid (pubkey message signature : Bytes) : Prop :=
  ∃ P, EvenPoint (natOfBytes pubkey) P ∧ natOfBytes (signature.drop 32) < groupOrder ∧
    EvenPoint (natOfBytes (signature.take 32)) (reached P pubkey message signature)

section Valid

variable {point : Point} {P : curve.Point} {pubkey message signature : Bytes}

theorem verify_eq_true_iff (hpoint : Represents point P) :
    verify pubkey point message signature = true ↔
      natOfBytes (signature.drop 32) < groupOrder ∧
        EvenPoint (natOfBytes (signature.take 32)) (reached P pubkey message signature) := by
  have hsum := (represents_smul_generator (natOfBytes (signature.drop 32))).add
    (hpoint.smul (challenge (signature.take 32) pubkey message)).neg
  rw [← sub_eq_add_neg] at hsum
  rw [reached, verify]
  generalize natOfBytes (signature.drop 32) • basePoint -
    challenge (signature.take 32) pubkey message • P = R at hsum ⊢
  cases R with
  | zero =>
    have hnone := hsum.toAffine_zero
    simp only [hnone, ite_self, Bool.false_eq_true, false_iff]
    exact fun h => not_evenPoint_zero h.2
  | some x y h =>
    have hlt := ZMod.val_lt x
    simp only [hsum.toAffine, evenPoint_some_iff]
    constructor
    · intro hverify
      split at hverify
      · cases hverify
      · rename_i hbounds
        simp only [Bool.or_eq_true, decide_eq_true_eq, not_or, not_le] at hbounds
        simp only [Bool.and_eq_true, decide_eq_true_eq] at hverify
        exact ⟨hbounds.2, hverify.2, hverify.1⟩
    · rintro ⟨hs, hx, heven⟩
      rw [← hx, if_neg (by simp [hlt, hs])]
      simp [heven]

theorem verify_iff_valid (hlift : Point.liftX (natOfBytes pubkey) = some point) :
    verify pubkey point message signature = true ↔ Valid pubkey message signature := by
  obtain ⟨P, hP, hrep⟩ := evenPoint_of_liftX hlift
  rw [verify_eq_true_iff hrep]
  constructor
  · exact fun h => ⟨P, hP, h⟩
  · rintro ⟨Q, hQ, h⟩
    rwa [hP.unique hQ]

end Valid

end Schnorr

end ChallengeLogin.Curve
