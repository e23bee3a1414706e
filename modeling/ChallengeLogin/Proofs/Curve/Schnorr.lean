import ChallengeLogin.Curve.Schnorr
import ChallengeLogin.Proofs.Curve.Order

namespace ChallengeLogin.Curve

open ChallengeLogin.Text

section Parity

variable {y : Residue}

-- Opposite elements other than zero have different parities, the order being odd.
theorem even_val_neg (h : y.val % 2 = 1) : (-y).val % 2 = 0 := by
  have hy : y ≠ 0 := by
    rintro rfl
    rw [ZMod.val_zero] at h
    omega
  have hlt := ZMod.val_lt y
  have hodd := fieldOrder_odd
  rw [ZMod.neg_val, if_neg hy]
  omega

-- Of the two roots of a square, the even one
theorem evenRoot_eq {r : ℕ} (hlt : r < fieldOrder) (hroot : (r : Residue) = y ∨ (r : Residue) = -y)
    (heven : y.val % 2 = 0) : (if r % 2 = 0 then r else fieldOrder - r) = y.val := by
  rcases hroot with h | h
  · have hr : r = y.val := by rw [← h, Field.val_cast hlt]
    rw [if_pos (by omega), hr]
  · have hr : r = (-y).val := by rw [← h, Field.val_cast hlt]
    rw [ZMod.neg_val] at hr
    by_cases hy : y = 0
    · rw [if_pos hy] at hr
      rw [hr, hy, ZMod.val_zero]
      rfl
    · have hle := (ZMod.val_lt y).le
      have hodd := fieldOrder_odd
      rw [if_neg hy] at hr
      rw [if_neg (by omega), hr, Nat.sub_sub_self hle]

end Parity

section Coordinates

variable {x y : Residue}

-- A number is spelled by its bytes where there are enough of them.
theorem natOfBytes_bytesOfNat {count n : ℕ} (h : n < 256 ^ count) :
    natOfBytes (bytesOfNat count n) = n := by
  induction count generalizing n with
  | zero =>
    have hn : n = 0 := by omega
    rw [hn]
    rfl
  | succ count ih =>
    have hdiv : n / 256 < 256 ^ count := Nat.div_lt_of_lt_mul (by rwa [Nat.pow_succ'] at h)
    rw [bytesOfNat, natOfBytes_append_singleton, ih hdiv, UInt8.toNat_ofNat']
    omega

theorem length_bytes32 (n : ℕ) : (bytes32 n).length = 32 :=
  length_bytesOfNat 32 n

theorem natOfBytes_bytes32 {n : ℕ} (h : n < 2 ^ 256) : natOfBytes (bytes32 n) = n :=
  natOfBytes_bytesOfNat (lt_of_lt_of_eq h (by norm_num))

theorem natOfBytes_coordinate (x : Residue) : natOfBytes (bytes32 x.val) = x.val :=
  natOfBytes_bytes32 (lt_trans (ZMod.val_lt x) (by decide))

-- The point with an even y is found from its x.
theorem liftX_of_even (h : curve.Nonsingular x y) (heven : y.val % 2 = 0) :
    ∃ p, Point.liftX x.val = some p ∧ Represents p (.some x y h) := by
  have hsq : (Field.add (Field.mul x.val (Field.mul x.val x.val)) 7 : Residue) = y * y := by
    simp only [Field.cast_add, Field.cast_mul, ZMod.natCast_zmod_val, Nat.cast_ofNat]
    rw [← sq y, curve_nonsingular_iff.mp h, pow_three]
  obtain ⟨r, hsqrt, hlt, hroot⟩ := Field.sqrt_of_sq hsq
  have hx : ¬fieldOrder ≤ x.val := not_le.mpr (ZMod.val_lt x)
  refine ⟨Point.ofAffine x.val y.val, ?_, ?_⟩
  · rw [Point.liftX, if_neg hx, hsqrt, Option.map_some, evenRoot_eq hlt hroot heven]
  · have hscaled := Scaled.ofAffine (x := x.val) (ZMod.val_lt y)
    rw [ZMod.natCast_zmod_val, ZMod.natCast_zmod_val] at hscaled
    exact .finite h hscaled

end Coordinates

namespace Schnorr

-- A secret whose point has an even y, with the x of that point as the public key
structure KeyPair.Sound (key : KeyPair) (x y : Residue) (h : curve.Nonsingular x y) : Prop where
  point : key.secret • basePoint = .some x y h
  even : y.val % 2 = 0
  pubkey : key.pubkey = bytes32 x.val

section KeyPair

variable {key : KeyPair} {x y : Residue} {h : curve.Nonsingular x y}

theorem keyPair_sound {secret : ℕ} (hpos : 0 < secret) (hlt : secret < groupOrder) :
    ∃ x y h, (keyPair secret).Sound x y h := by
  obtain ⟨x, y, h, hpoint⟩ : ∃ x y h, secret • basePoint = .some x y h := by
    have hne := nsmul_basePoint_ne_zero hpos hlt
    cases hcase : secret • basePoint with
    | zero => exact absurd hcase hne
    | some x y h => exact ⟨x, y, h, rfl⟩
  have hrep := represents_smul_generator secret
  rw [hpoint] at hrep
  rw [keyPair, hrep.toAffine]
  by_cases heven : y.val % 2 = 0
  · refine ⟨x, y, h, ?_, heven, rfl⟩
    simp only [if_pos heven, hpoint]
  · refine ⟨x, -y, ?_, ?_, even_val_neg (by omega), rfl⟩
    · rwa [curve_nonsingular_iff, neg_sq, ← curve_nonsingular_iff]
    · simp only [if_neg heven]
      rw [opposite_nsmul_basePoint hlt.le, hpoint, WeierstrassCurve.Affine.Point.neg_some]
      simp only [curve_negY]

namespace KeyPair.Sound

theorem length_pubkey (hkey : key.Sound x y h) : key.pubkey.length = 32 := by
  rw [hkey.pubkey, length_bytes32]

theorem natOfBytes_pubkey (hkey : key.Sound x y h) : natOfBytes key.pubkey = x.val := by
  rw [hkey.pubkey, natOfBytes_coordinate]

-- The verifier's point for a public key is the signer's.
theorem liftX_pubkey (hkey : key.Sound x y h) :
    ∃ p, Point.liftX (natOfBytes key.pubkey) = some p ∧
      Represents p (key.secret • basePoint) := by
  rw [hkey.natOfBytes_pubkey, hkey.point]
  exact liftX_of_even h hkey.even

end KeyPair.Sound

end KeyPair

section Verification

variable {key : KeyPair} {message : Bytes}

theorem length_sign (hnonce : nonce key message ≠ 0) : (sign key message).length = 64 := by
  obtain ⟨x, y, h, hcommit⟩ :=
    keyPair_sound (Nat.pos_of_ne_zero hnonce) (Nat.mod_lt _ groupOrder_pos)
  rw [sign]
  simp only [List.length_append, length_bytes32]
  rw [hcommit.length_pubkey]

-- With response s = k + e * d, the point s • G less e times the key's point is k • G.
theorem response_nsmul (k e d : ℕ) :
    ((k + e * d) % groupOrder) • basePoint + -(e • d • basePoint) = k • basePoint := by
  rw [mod_nsmul_basePoint, add_nsmul, mul_nsmul', add_neg_cancel_right]

theorem verify_sign {point : Point} (hpoint : Represents point (key.secret • basePoint))
    (hnonce : nonce key message ≠ 0) :
    verify key.pubkey point message (sign key message) = true := by
  obtain ⟨x, y, h, hcommit⟩ :=
    keyPair_sound (Nat.pos_of_ne_zero hnonce) (Nat.mod_lt _ groupOrder_pos)
  have htake : (sign key message).take 32 = (keyPair (nonce key message)).pubkey :=
    List.take_left' hcommit.length_pubkey
  have hdrop : natOfBytes ((sign key message).drop 32) =
      ((keyPair (nonce key message)).secret +
        challenge (keyPair (nonce key message)).pubkey key.pubkey message * key.secret) %
          groupOrder := by
    rw [sign, List.drop_left' hcommit.length_pubkey]
    exact natOfBytes_bytes32 (lt_trans (Nat.mod_lt _ groupOrder_pos) (by decide))
  have hr : ¬fieldOrder ≤ x.val := not_le.mpr (ZMod.val_lt x)
  have hs (n : ℕ) : ¬groupOrder ≤ n % groupOrder := not_le.mpr (Nat.mod_lt _ groupOrder_pos)
  have hsum := (represents_smul_generator (natOfBytes ((sign key message).drop 32))).add
    (hpoint.smul (challenge ((sign key message).take 32) key.pubkey message)).neg
  rw [hdrop, htake, response_nsmul, hcommit.point] at hsum
  rw [verify]
  simp only [htake, hdrop, hcommit.natOfBytes_pubkey, hr, hs, decide_false, Bool.or_self,
    Bool.false_eq_true, if_false, hsum.toAffine, hcommit.even, decide_true, Bool.and_self]

end Verification

end Schnorr

end ChallengeLogin.Curve
