import Mathlib.Data.List.Basic
import ChallengeLogin.Key
import ChallengeLogin.Proofs.Event.Json
import ChallengeLogin.Proofs.Text.Hex

namespace ChallengeLogin

open ChallengeLogin.Text ChallengeLogin.Digest

section HashedText

-- What follows the opening bracket of a written list, up to and with the closing one
theorem array_cons (item : List Char) {items : List (List Char)} (h : items ≠ []) :
    (Json.array (item :: items)).tail = item ++ ',' :: (Json.array items).tail := by
  simp only [Json.array, List.tail_cons, Json.commas_cons item h, List.append_assoc,
    List.cons_append]

theorem array_singleton (item : List Char) : (Json.array [item]).tail = item ++ [']'] := rfl

-- Two lists of values that agree as texts agree in their first value and in what follows it.
theorem cancel_item {α : Type} {reader : Json.Reader α} {text text' : List Char} {a a' : α}
    (h : reader.Reads text a) (h' : reader.Reads text' a') {rest rest' : List Char}
    (heq : text ++ ',' :: rest = text' ++ ',' :: rest') : a = a' ∧ rest = rest' := by
  have hcomma (l : List Char) : Json.Detached ((',' :: l).map some) :=
    Json.detached_cons (by decide) (l.map some)
  obtain ⟨ha, hrest⟩ := h.cancel h' (hcomma rest) (hcomma rest') heq
  exact ⟨ha, (List.cons.inj hrest).2⟩

theorem UnsignedEvent.hashedText_injective {a b : UnsignedEvent} {p q : String}
    (h : a.hashedText p = b.hashedText q) : p = q ∧ a = b := by
  have h := congrArg List.tail h
  unfold UnsignedEvent.hashedText at h
  simp only [array_cons _ (List.cons_ne_nil _ _), array_singleton] at h
  obtain ⟨-, h⟩ := cancel_item (reads_createdAt 0) (reads_createdAt 0) h
  obtain ⟨hpubkey, h⟩ := cancel_item (Json.Reader.reads_quote _) (Json.Reader.reads_quote _) h
  obtain ⟨hcreatedAt, h⟩ := cancel_item (reads_createdAt _) (reads_createdAt _) h
  obtain ⟨hkind, h⟩ := cancel_item (reads_kind _) (reads_kind _) h
  obtain ⟨htags, h⟩ := cancel_item (reads_tags _) (reads_tags _) h
  have hend : Json.Detached ([']'].map some) := Json.detached_cons (by decide) []
  obtain ⟨hcontent, -⟩ := (Json.Reader.reads_quote _).cancel (Json.Reader.reads_quote _) hend hend h
  obtain ⟨createdAt, kind, tags, content⟩ := a
  cases htags
  cases hcontent
  cases UInt64.toNat_inj.mp hcreatedAt
  cases UInt16.toNat_inj.mp hkind
  exact ⟨hpubkey, rfl⟩

end HashedText

namespace SignedEvent

-- The bytes whose digest identifies an event
def hashedBytes (event : SignedEvent) : Bytes :=
  Utf8.encode (event.unsigned.hashedText event.pubkey)

-- Agreement in everything that is hashed
def SameFields (a b : SignedEvent) : Prop :=
  a.pubkey = b.pubkey ∧ a.createdAt = b.createdAt ∧ a.kind = b.kind ∧ a.tags = b.tags ∧
    a.content = b.content

-- Different bytes are hashed to the same digest.
def Collides (a b : SignedEvent) : Prop :=
  a.hashedBytes ≠ b.hashedBytes ∧ sha256 a.hashedBytes = sha256 b.hashedBytes

theorem hashedBytes_eq_iff {a b : SignedEvent} :
    a.hashedBytes = b.hashedBytes ↔ SameFields a b := by
  constructor
  · intro h
    obtain ⟨hpubkey, hunsigned⟩ := UnsignedEvent.hashedText_injective (Utf8.encode_injective h)
    simp only [unsigned, UnsignedEvent.mk.injEq] at hunsigned
    exact ⟨hpubkey, hunsigned⟩
  · rintro ⟨hpubkey, hcreatedAt, hkind, htags, hcontent⟩
    simp only [hashedBytes, unsigned, hpubkey, hcreatedAt, hkind, htags, hcontent]

theorem sha256_eq_of_expectedId_eq {a b : SignedEvent} (h : a.expectedId = b.expectedId) :
    sha256 a.hashedBytes = sha256 b.hashedBytes := by
  have hdecode := congrArg Hex.decode h
  rw [expectedId, expectedId, Hex.decode_encode, Hex.decode_encode] at hdecode
  exact Except.ok.inj hdecode

theorem sameFields_or_collides {a b : SignedEvent} (h : a.expectedId = b.expectedId) :
    SameFields a b ∨ Collides a b := by
  by_cases hbytes : a.hashedBytes = b.hashedBytes
  · exact .inl (hashedBytes_eq_iff.mp hbytes)
  · exact .inr ⟨hbytes, sha256_eq_of_expectedId_eq h⟩

theorem verify_of_id_ne {event : SignedEvent} (h : event.id ≠ event.expectedId) :
    event.verify = .error .idMismatch := by
  rw [verify, if_pos h]

theorem id_eq_of_verify {event : SignedEvent} (h : event.verify = .ok ()) :
    event.id = event.expectedId := by
  by_cases hid : event.id = event.expectedId
  · exact hid
  · rw [verify_of_id_ne hid] at h
    cases h

-- A signature counts by its bytes, whatever digits they are written in.
theorem verify_of_same_bytes (event : SignedEvent) {sig : String}
    (h : hexField sig = hexField event.sig) :
    ({ event with sig } : SignedEvent).verify = event.verify := by
  unfold verify
  simp only [h]
  rfl

-- An id that is accepted twice names the same fields, and under an accepted id no field can be
-- changed without notice; a collision of the digest is the only way around either.
theorem id_binds_hashed_fields (a b : SignedEvent) :
    (a.hashedBytes = b.hashedBytes ↔ SameFields a b) ∧
      (a.verify = .ok () → b.verify = .ok () → a.id = b.id → SameFields a b ∨ Collides a b) ∧
      (a.verify = .ok () → a.id = b.id → ¬SameFields a b →
        b.verify.mapError VerifyFault.message = .error "id mismatch" ∨ Collides a b) := by
  refine ⟨hashedBytes_eq_iff, fun ha hb hid => ?_, fun ha hid hfields => ?_⟩
  · apply sameFields_or_collides
    rw [← id_eq_of_verify ha, ← id_eq_of_verify hb, hid]
  · by_cases hb : b.id = b.expectedId
    · have hexpected : a.expectedId = b.expectedId := by rw [← id_eq_of_verify ha, hid, hb]
      exact .inr ((sameFields_or_collides hexpected).resolve_left hfields)
    · rw [verify_of_id_ne hb]
      exact .inl rfl

-- An event signed with the secret one
def sample : SignedEvent :=
  ⟨"561839cb91f874d1d83121fa54f9b19086de37a7196eb0b4c6398338a8750336",
    "79be667ef9dcbbac55a06295ce870b07029bfcdb2dce28d959f2815b16f81798", 0, 27235, [], "abc123",
    "3350942d6b0681193eb005758d88b86ee81b6fee60c314a1bc18cef673fea642" ++
      "50450ca552ac5d094571ab8252f36a820b4fd52b0a170a18bd812f93b29857b3"⟩

-- The sample with the digits of its signature in the other case
def sampleInUpperCase : SignedEvent :=
  { sample with
    sig := "3350942D6B0681193EB005758D88B86EE81B6FEE60C314A1BC18CEF673FEA642" ++
      "50450CA552AC5D094571AB8252F36A820B4FD52B0A170A18BD812F93B29857B3" }

-- The sample with another content
def sampleTampered : SignedEvent :=
  { sample with content := "abc124" }

theorem id_binds_sample :
    (sample.verify = .ok () ∧ sampleInUpperCase.verify = .ok () ∧
      sample.id = sampleInUpperCase.id ∧ SameFields sample sampleInUpperCase) ∧
    (sample.id = sampleTampered.id ∧ ¬SameFields sample sampleTampered ∧
      (sampleTampered.verify.mapError VerifyFault.message = .error "id mismatch" ∨
        Collides sample sampleTampered)) := by
  have hsample : sample.verify = .ok () := by decide +kernel
  have hbytes : hexField sampleInUpperCase.sig = hexField sample.sig := by decide +kernel
  have hupper : sampleInUpperCase.verify = .ok () := by
    rw [← hsample]
    exact verify_of_same_bytes sample hbytes
  have htampered : ¬SameFields sample sampleTampered := fun h => absurd h.2.2.2.2 (by decide)
  refine ⟨⟨hsample, hupper, rfl, ?_⟩, rfl, htampered, ?_⟩
  · have hbound := (id_binds_hashed_fields sample sampleInUpperCase).2.1 hsample hupper rfl
    exact hbound.resolve_right fun h => h.1 rfl
  · exact (id_binds_hashed_fields sample sampleTampered).2.2 hsample rfl htampered

end SignedEvent

end ChallengeLogin
