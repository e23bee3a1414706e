import ChallengeLogin.Proofs.Curve.Verification
import ChallengeLogin.Proofs.Event.Id
import ChallengeLogin.Proofs.Json.Written
import ChallengeLogin.Proofs.Text.Spelling

namespace ChallengeLogin

open ChallengeLogin.Text ChallengeLogin.Digest ChallengeLogin.Curve

namespace SignedEvent

-- The compact text of the array that is signed
def arrayText (event : SignedEvent) : String :=
  String.ofList <| Json.array
    [Json.decimal 0, Json.quote event.pubkey, Json.decimal event.createdAt.toNat,
      Json.decimal event.kind.toNat, tagsToJson event.tags, Json.quote event.content]

-- The array itself
def arrayValue (event : SignedEvent) : Json.Value :=
  .array [.number (Json.decimal 0), .string event.pubkey,
    .number (Json.decimal event.createdAt.toNat), .number (Json.decimal event.kind.toNat),
    .array (event.tags.map fun tag => .array (tag.map .string)), .string event.content]

def hash (event : SignedEvent) : Bytes :=
  sha256 (Utf8.bytesOf event.arrayText)

-- The checks in their order, each with those before it
def HasId (event : SignedEvent) : Prop :=
  event.id = String.ofList (Hex.encode event.hash)

structure HasSignature (event : SignedEvent) (signature : Bytes) : Prop where
  id : event.HasId
  text : Hex.Spells event.sig signature
  length : signature.length = 64

-- The bytes are those of the x of a point of the curve.
def NamesPoint (pubkey : Bytes) : Prop :=
  pubkey.length = 32 ∧ IsCoordinate (natOfBytes pubkey)

structure HasKey (event : SignedEvent) (signature pubkey : Bytes) : Prop extends
    HasSignature event signature where
  keyText : Hex.Spells event.pubkey pubkey
  point : NamesPoint pubkey

def Accepted (event : SignedEvent) : Prop :=
  ∃ signature pubkey, event.HasKey signature pubkey ∧
    Schnorr.Valid pubkey event.hash signature

-- The first check that fails, and what is reported for it
inductive Rejected (event : SignedEvent) : String → Prop
  | id (h : ¬event.HasId) : Rejected event "id mismatch"
  | signatureText {message : String} (hid : event.HasId) (h : Hex.Misspells event.sig message) :
      Rejected event message
  | signatureLength {signature : Bytes} (hid : event.HasId) (htext : Hex.Spells event.sig signature)
      (h : signature.length ≠ 64) : Rejected event "malformed signature"
  | keyText {signature : Bytes} {message : String} (hsignature : event.HasSignature signature)
      (h : Hex.Misspells event.pubkey message) : Rejected event message
  | point {signature pubkey : Bytes} (hsignature : event.HasSignature signature)
      (htext : Hex.Spells event.pubkey pubkey) (h : ¬NamesPoint pubkey) :
      Rejected event "malformed public key"
  | signature {signature pubkey : Bytes} (hkey : event.HasKey signature pubkey)
      (h : ¬Schnorr.Valid pubkey event.hash signature) :
      Rejected event "signature failed verification"

variable {event : SignedEvent} {signature pubkey : Bytes} {message : String}

theorem digest_eq_hash (event : SignedEvent) :
    event.unsigned.digest event.pubkey = event.hash := by
  rw [hash, arrayText, Utf8.bytesOf, String.toList_ofList]
  rfl

theorem hasId_iff : event.HasId ↔ event.id = event.expectedId := by
  rw [HasId, expectedId, digest_eq_hash]

theorem spells_arrayText (event : SignedEvent) :
    Json.SpellsText event.arrayText event.arrayValue := by
  rw [Json.SpellsText, arrayText, String.toList_ofList]
  have htags : Json.Spells (tagsToJson event.tags) _ :=
    Json.spells_array (Json.spells_array Json.spells_quote) event.tags
  have hitems : Json.Spells _ (.items _) :=
    .moreItems (Json.spells_decimal 0).unpadded <|
    .moreItems (Json.spells_quote event.pubkey).unpadded <|
    .moreItems (Json.spells_decimal event.createdAt.toNat).unpadded <|
    .moreItems (Json.spells_decimal event.kind.toNat).unpadded <|
    .moreItems htags.unpadded <|
    .lastItem (Json.spells_quote event.content).unpadded
  exact (Json.Spells.array hitems).unpadded

section Fields

variable {text : String} {bs : Bytes}

theorem hexField_of_spells (h : Hex.Spells text bs) : hexField text = .ok bs := by
  rw [hexField, Hex.decode_eq_ok_iff.mpr h]
  rfl

theorem hexField_of_misspells (h : Hex.Misspells text message) :
    ∃ fault, hexField text = .error fault ∧ fault.message = message := by
  obtain ⟨fault, hdecode, hmessage⟩ := Hex.decode_of_misspells h
  refine ⟨.hex fault, ?_, hmessage⟩
  rw [hexField, hdecode]
  rfl

theorem pointOfBytes?_of_namesPoint (h : NamesPoint bs) :
    ∃ p, pointOfBytes? bs = some p ∧ Point.liftX (natOfBytes bs) = some p := by
  rw [pointOfBytes?, if_pos h.1]
  cases hlift : Point.liftX (natOfBytes bs) with
  | none => exact absurd h.2 (liftX_eq_none_iff.mp hlift)
  | some p => exact ⟨p, rfl, rfl⟩

theorem pointOfBytes?_of_not_namesPoint (h : ¬NamesPoint bs) : pointOfBytes? bs = none := by
  rw [pointOfBytes?]
  split
  · rename_i hlength
    exact liftX_eq_none_iff.mpr fun hcoordinate => h ⟨hlength, hcoordinate⟩
  · rfl

end Fields

-- Once a check has passed, the event is judged by those behind it.
theorem verify_of_hasKey (h : event.HasKey signature pubkey) {point : Point}
    (hpoint : pointOfBytes? pubkey = some point) :
    event.verify =
      if Schnorr.verify pubkey point event.hash signature then .ok ()
      else .error .badSignature := by
  rw [verify, if_neg (not_not_intro (hasId_iff.mp h.id)), digest_eq_hash]
  simp only [hexField_of_spells h.text, h.length, hexField_of_spells h.keyText, hpoint, ne_eq,
    not_true_eq_false, if_false]

theorem verify_of_hasSignature (h : event.HasSignature signature) :
    (∀ fault, hexField event.pubkey = .error fault → event.verify = .error fault) ∧
      ∀ pubkey, hexField event.pubkey = .ok pubkey → pointOfBytes? pubkey = none →
        event.verify = .error .malformedPubkey := by
  rw [verify, if_neg (not_not_intro (hasId_iff.mp h.id))]
  simp only [hexField_of_spells h.text, h.length, ne_eq, not_true_eq_false, if_false]
  exact ⟨fun _ hfault => by rw [hfault], fun _ htext hnone => by rw [htext]; simp only [hnone]⟩

theorem verify_of_accepted (h : event.Accepted) : event.verify = .ok () := by
  obtain ⟨signature, pubkey, hkey, hvalid⟩ := h
  obtain ⟨point, hpoint, hlift⟩ := pointOfBytes?_of_namesPoint hkey.point
  rw [verify_of_hasKey hkey hpoint, if_pos ((Schnorr.verify_iff_valid hlift).mpr hvalid)]

theorem verify_of_rejected (h : event.Rejected message) :
    ∃ fault, event.verify = .error fault ∧ fault.message = message := by
  cases h with
  | id h => exact ⟨.idMismatch, verify_of_id_ne (mt hasId_iff.mpr h), rfl⟩
  | signatureText hid h =>
    obtain ⟨fault, hfault, hmessage⟩ := hexField_of_misspells h
    refine ⟨fault, ?_, hmessage⟩
    rw [verify, if_neg (not_not_intro (hasId_iff.mp hid)), hfault]
  | signatureLength hid htext h =>
    refine ⟨.malformedSignature, ?_, rfl⟩
    rw [verify, if_neg (not_not_intro (hasId_iff.mp hid)), hexField_of_spells htext]
    exact if_pos h
  | keyText hsignature h =>
    obtain ⟨fault, hfault, hmessage⟩ := hexField_of_misspells h
    exact ⟨fault, (verify_of_hasSignature hsignature).1 fault hfault, hmessage⟩
  | point hsignature htext h =>
    exact ⟨.malformedPubkey, (verify_of_hasSignature hsignature).2 _ (hexField_of_spells htext)
      (pointOfBytes?_of_not_namesPoint h), rfl⟩
  | signature hkey h =>
    obtain ⟨point, hpoint, hlift⟩ := pointOfBytes?_of_namesPoint hkey.point
    refine ⟨.badSignature, ?_, rfl⟩
    rw [verify_of_hasKey hkey hpoint, if_neg fun hok => h ((Schnorr.verify_iff_valid hlift).mp hok)]

theorem accepted_or_rejected (event : SignedEvent) :
    event.Accepted ∨ ∃ message, event.Rejected message := by
  by_cases hid : event.HasId
  case neg => exact .inr ⟨_, .id hid⟩
  rcases Hex.spells_or_misspells event.sig with ⟨signature, htext⟩ | ⟨message, h⟩
  case inr => exact .inr ⟨message, .signatureText hid h⟩
  by_cases hlength : signature.length = 64
  case neg => exact .inr ⟨_, .signatureLength hid htext hlength⟩
  have hsignature : event.HasSignature signature := ⟨hid, htext, hlength⟩
  rcases Hex.spells_or_misspells event.pubkey with ⟨pubkey, hkeyText⟩ | ⟨message, h⟩
  case inr => exact .inr ⟨message, .keyText hsignature h⟩
  by_cases hpoint : NamesPoint pubkey
  case neg => exact .inr ⟨_, .point hsignature hkeyText hpoint⟩
  have hkey : event.HasKey signature pubkey := ⟨hsignature, hkeyText, hpoint⟩
  by_cases hvalid : Schnorr.Valid pubkey event.hash signature
  · exact .inl ⟨signature, pubkey, hkey, hvalid⟩
  · exact .inr ⟨_, .signature hkey hvalid⟩

theorem verify_eq_ok_iff : event.verify = .ok () ↔ event.Accepted := by
  constructor
  · intro hok
    rcases event.accepted_or_rejected with h | ⟨message, h⟩
    · exact h
    · obtain ⟨fault, hfault, -⟩ := verify_of_rejected h
      cases hok.symm.trans hfault
  · exact verify_of_accepted

theorem verify_eq_error_iff :
    event.verify.mapError VerifyFault.message = .error message ↔ event.Rejected message := by
  constructor
  · intro herror
    rcases event.accepted_or_rejected with h | ⟨reported, h⟩
    · rw [verify_of_accepted h] at herror
      cases herror
    · obtain ⟨fault, hfault, hmessage⟩ := verify_of_rejected h
      rw [hfault] at herror
      obtain rfl := Except.error.inj herror
      rwa [hmessage]
  · intro h
    obtain ⟨fault, hfault, hmessage⟩ := verify_of_rejected h
    rw [hfault, ← hmessage]
    rfl

-- A signature is read by its letters in lower case.
theorem Accepted.recase {sig : String}
    (hcase : sig.toList.map Char.toLower = event.sig.toList.map Char.toLower)
    (h : event.Accepted) : ({ event with sig } : SignedEvent).Accepted := by
  obtain ⟨signature, pubkey, ⟨⟨hid, htext, hlength⟩, hkeyText, hpoint⟩, hvalid⟩ := h
  exact ⟨signature, pubkey, ⟨⟨hid, hcase.trans htext, hlength⟩, hkeyText, hpoint⟩, hvalid⟩

-- An event is accepted exactly if it passes the checks, and otherwise rejected for the first that
-- fails; the case of the letters of the signature decides nothing.
theorem verify_iff_accepted (event : SignedEvent) :
    Json.SpellsText event.arrayText event.arrayValue ∧
      (event.verify = .ok () ↔ event.Accepted) ∧
      (∀ message, event.verify.mapError VerifyFault.message = .error message ↔
        event.Rejected message) ∧
      ∀ sig : String, sig.toList.map Char.toLower = event.sig.toList.map Char.toLower →
        (({ event with sig } : SignedEvent).verify = .ok () ↔ event.verify = .ok ()) := by
  refine ⟨event.spells_arrayText, verify_eq_ok_iff, fun message => verify_eq_error_iff,
    fun sig hcase => ?_⟩
  rw [verify_eq_ok_iff, verify_eq_ok_iff]
  exact ⟨Accepted.recase hcase.symm, Accepted.recase hcase⟩

theorem sample_accepted :
    sample.Accepted ∧ sampleInUpperCase.verify = .ok () ∧
      sampleTampered.Rejected "id mismatch" := by
  have hsample : sample.verify = .ok () := by decide +kernel
  have hcase : sampleInUpperCase.sig.toList.map Char.toLower =
      sample.sig.toList.map Char.toLower := by decide +kernel
  have htampered : sampleTampered.verify.mapError VerifyFault.message = .error "id mismatch" := by
    decide +kernel
  obtain ⟨-, haccepted, -, hcases⟩ := verify_iff_accepted sample
  exact ⟨haccepted.mp hsample, (hcases sampleInUpperCase.sig hcase).mpr hsample,
    ((verify_iff_accepted sampleTampered).2.2.1 "id mismatch").mp htampered⟩

end SignedEvent

end ChallengeLogin
