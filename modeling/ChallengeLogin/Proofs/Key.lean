import ChallengeLogin.Proofs.Curve.Schnorr
import ChallengeLogin.Proofs.Event.Id

namespace ChallengeLogin.Key

open ChallengeLogin.Text ChallengeLogin.Curve

section Signing

variable {text : String} {key : Key}

theorem sound_of_ofText (h : ofText text = .ok key) : ∃ x y hxy, key.pair.Sound x y hxy := by
  unfold ofText at h
  split at h
  · cases h
  · rename_i bs _
    unfold secretOfBytes? at h
    by_cases hrange : bs.length = 32 ∧ 0 < natOfBytes bs ∧ natOfBytes bs < groupOrder
    · simp only [if_pos hrange, Except.ok.injEq] at h
      rw [← h]
      exact Schnorr.keyPair_sound hrange.2.1 hrange.2.2
    · simp only [if_neg hrange] at h
      cases h

theorem id_sign (key : Key) (event : UnsignedEvent) :
    (key.sign event).id = (key.sign event).expectedId := rfl

-- The public key in an event names the point of the signer.
theorem pointOfBytes_pubkey {x y : Residue} {hxy : curve.Nonsingular x y}
    (h : key.pair.Sound x y hxy) :
    ∃ point, pointOfBytes? key.pair.pubkey = some point ∧
      Represents point (key.pair.secret • basePoint) := by
  rw [pointOfBytes?, if_pos h.length_pubkey]
  exact h.liftX_pubkey

theorem verify_sign (h : ofText text = .ok key) {event : UnsignedEvent}
    (hnonce : Schnorr.nonce key.pair (event.digest key.pubkey) ≠ 0) :
    (key.sign event).verify = .ok () := by
  obtain ⟨x, y, hxy, hkey⟩ := sound_of_ofText h
  obtain ⟨point, hpoint, hrep⟩ := pointOfBytes_pubkey hkey
  have hsig : hexField (key.sign event).sig =
      .ok (Schnorr.sign key.pair (event.digest key.pubkey)) := by
    rw [hexField, sign, UnsignedEvent.attach, Hex.decode_encode]
    rfl
  have hpubkey : hexField (key.sign event).pubkey = .ok key.pair.pubkey := by
    rw [hexField, sign, UnsignedEvent.attach, pubkey, Hex.decode_encode]
    rfl
  have hlength : ¬(Schnorr.sign key.pair (event.digest key.pubkey)).length ≠ 64 :=
    not_not.mpr (Schnorr.length_sign hnonce)
  have hverified := Schnorr.verify_sign hrep hnonce
  rw [SignedEvent.verify, if_neg (not_not.mpr (id_sign key event)), hsig]
  simp only [if_neg hlength, hpubkey, hpoint]
  exact if_pos hverified

end Signing

-- A key that has been read answers every challenge with an event that verifies, and that verifies
-- again where its text is read. The number behind the first half of a signature is a hash, which is
-- taken not to be zero.
theorem respondent_verifies {text : String} {key : Key} (hkey : ofText text = .ok key)
    (nonce : String) (now : UInt64)
    (hnonce : Schnorr.nonce key.pair ((UnsignedEvent.ofNonce nonce now).digest key.pubkey) ≠ 0) :
    ∃ event, key.respondent (UnsignedEvent.ofNonce nonce now) = .ok event ∧
      event.unsigned = UnsignedEvent.ofNonce nonce now ∧
      event.pubkey = key.pubkey ∧ Hex.LowerDigits 64 event.pubkey ∧
      Hex.LowerDigits 64 event.id ∧ Hex.LowerDigits 128 event.sig ∧
      event.verify = .ok () ∧
      ∃ copy, SignedEvent.ofJson event.toJson = .ok copy ∧ copy.verify = .ok () := by
  obtain ⟨x, y, hxy, hsound⟩ := sound_of_ofText hkey
  have hverify := verify_sign hkey hnonce
  refine ⟨key.sign (UnsignedEvent.ofNonce nonce now), rfl, rfl, rfl, ?_, ?_, ?_, hverify, ?_⟩
  · exact Hex.lowerDigits_encode (by rw [hsound.length_pubkey])
  · exact Hex.lowerDigits_encode (by rw [UnsignedEvent.digest, Digest.sha256_length])
  · exact Hex.lowerDigits_encode (by rw [Schnorr.length_sign hnonce])
  · exact ⟨_, SignedEvent.ofJson_toJson _, hverify⟩

-- The secret one with blanks around it
def oneText : String :=
  " 0000000000000000000000000000000000000000000000000000000000000001\n"

-- The last time there is, and a nonce that the text of an event has to escape
def escapedEvent : UnsignedEvent :=
  UnsignedEvent.ofNonce "\"\\\t\u0001𝄞" 18446744073709551615

theorem respondent_verifies_one :
    ∃ key, ofText oneText = .ok key ∧
      Schnorr.nonce key.pair (escapedEvent.digest key.pubkey) ≠ 0 ∧
      ∃ event, key.respondent escapedEvent = .ok event ∧ event.verify = .ok () := by
  have hall : (match ofText oneText with
      | .error _ => false
      | .ok key => decide (Schnorr.nonce key.pair (escapedEvent.digest key.pubkey) ≠ 0)) =
      true := by decide +kernel
  cases hkey : ofText oneText with
  | error fault =>
    rw [hkey] at hall
    cases hall
  | ok key =>
    simp only [hkey, decide_eq_true_eq] at hall
    obtain ⟨event, hevent, -, -, -, -, -, hverify, -⟩ := respondent_verifies hkey _ _ hall
    exact ⟨key, rfl, hall, event, hevent, hverify⟩

end ChallengeLogin.Key
