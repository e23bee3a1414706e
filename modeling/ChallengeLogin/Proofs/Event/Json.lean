import ChallengeLogin.Proofs.Event.Acceptance

namespace ChallengeLogin

open ChallengeLogin.Text

section Fields

theorem spells_tags (tags : List Tag) :
    Json.Spells (tagsToJson tags) (.value (tagsValue tags)) :=
  Json.spells_array (Json.spells_array Json.spells_quote) tags

theorem reads_tags (tags : List Tag) :
    Json.Reader.string.list.list.Reads (tagsToJson tags) tags :=
  takes_tags.reads (spells_tags tags) (readTags_eq_some_iff.mpr rfl)

theorem reads_createdAt (n : UInt64) :
    (Json.Reader.natural Json.maxUnsigned).Reads (Json.decimal n.toNat) n.toNat :=
  Json.Reader.reads_decimal (Nat.le_refl _) (Nat.le_of_lt_succ n.toNat_lt)

theorem reads_kind (n : UInt16) :
    (Json.Reader.natural 65535).Reads (Json.decimal n.toNat) n.toNat :=
  Json.Reader.reads_decimal (by decide) (Nat.le_of_lt_succ n.toNat_lt)

end Fields

namespace SignedEvent

-- The members of an event as they are written
def entries (event : SignedEvent) : List Json.Entry :=
  [ ⟨"id", Json.quote event.id, .string event.id, Json.spells_quote _⟩,
    ⟨"pubkey", Json.quote event.pubkey, .string event.pubkey, Json.spells_quote _⟩,
    ⟨"created_at", _, _, Json.spells_decimal event.createdAt.toNat⟩,
    ⟨"kind", _, _, Json.spells_decimal event.kind.toNat⟩,
    ⟨"tags", tagsToJson event.tags, tagsValue event.tags, spells_tags _⟩,
    ⟨"content", Json.quote event.content, .string event.content, Json.spells_quote _⟩,
    ⟨"sig", Json.quote event.sig, .string event.sig, Json.spells_quote _⟩ ]

theorem toJson_eq (event : SignedEvent) :
    event.toJson = String.ofList (Json.object (event.entries.map Json.Entry.written)) := rfl

theorem spellsText_toJson (event : SignedEvent) :
    Json.SpellsText event.toJson (.object (event.entries.map Json.Entry.spelled)) := by
  rw [toJson_eq]
  exact Json.Entry.spellsText_object event.entries

theorem holds_entries (event : SignedEvent) :
    Holds (event.entries.map Json.Entry.spelled) event where
  id := rfl
  pubkey := .inl rfl
  createdAt := ⟨_, rfl, Json.Reader.plain_decimal _⟩
  kind := ⟨_, rfl, Json.Reader.plain_decimal _⟩
  tags := rfl
  content := rfl
  sig := rfl

theorem ofJson_toJson (event : SignedEvent) : ofJson event.toJson = .ok event :=
  (ofJson_eq_ok_iff event.spellsText_toJson).mpr event.holds_entries

theorem toJson_injective {a b : SignedEvent} (h : a.toJson = b.toJson) : a = b := by
  have hread := ofJson_toJson a
  rw [h, ofJson_toJson b] at hread
  exact (Except.ok.inj hread).symm

-- An event is told by its text, and by no text of another event. A text that an event is read from
-- need not be that one, but writing the event makes it so.
theorem json_round_trip :
    (∀ event : SignedEvent, ofJson event.toJson = .ok event) ∧
      (∀ a b : SignedEvent, a.toJson = b.toJson ↔ a = b) ∧
      ∀ text event, ofJson text = .ok event →
        ofJson event.toJson = .ok event ∧
          (ofJson event.toJson).map toJson = .ok event.toJson := by
  refine ⟨ofJson_toJson, fun a b => ⟨toJson_injective, congrArg toJson⟩, fun text event _ => ?_⟩
  have hread := ofJson_toJson event
  exact ⟨hread, by rw [hread]; rfl⟩

-- A text with blanks, numbered escapes and members out of order
def looseText : String :=
  "\x7b \"sig\" : \"s1\",\t\"\\u0069d\":\"e\\/1\", \"kind\":27235,\n" ++
    "\"tags\":[ [], [\"\\ud83d\\ude00\"] ], \"content\":\"caf\\u00e9\", \"created_at\":0 \x7d "

-- The event that the text holds
def looseEvent : SignedEvent :=
  ⟨"e/1", "", 0, 27235, [[], ["😀"]], "café", "s1"⟩

theorem json_round_trip_loose :
    ofJson looseText = .ok looseEvent ∧ looseEvent.toJson ≠ looseText ∧
      ofJson looseEvent.toJson = .ok looseEvent ∧
      (ofJson looseEvent.toJson).map toJson = .ok looseEvent.toJson := by
  have hread : ofJson looseText = .ok looseEvent := by decide +kernel
  exact ⟨hread, by decide, json_round_trip.2.2 looseText looseEvent hread⟩

end SignedEvent

end ChallengeLogin
