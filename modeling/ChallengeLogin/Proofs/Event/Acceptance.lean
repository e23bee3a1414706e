import ChallengeLogin.Event.Json
import ChallengeLogin.Proofs.Json.Reading
import ChallengeLogin.Proofs.Json.StringMembers

namespace ChallengeLogin

open ChallengeLogin.Json (Value Slot Keeps Settled Plain AtMostOnce occurrences fill fillRow)

section Types

def IsNatural (limit : Nat) (v : Value) : Prop :=
  ∃ digits n, v = .number digits ∧ Plain digits n ∧ n ≤ limit

-- The value that tags are written as
def tagsValue (tags : List Tag) : Value :=
  .array (tags.map fun tag => .array (tag.map .string))

def IsTags (v : Value) : Prop :=
  ∃ tags, v = tagsValue tags

def readCreatedAt (v : Value) : Option UInt64 :=
  (v.natural? Json.maxUnsigned).map UInt64.ofNat

def readKind (v : Value) : Option UInt16 :=
  (v.natural? 65535).map UInt16.ofNat

def readTags (v : Value) : Option (List Tag) :=
  v.list? (Value.list? Value.string?)

theorem readTags_eq_some_iff {v : Value} {tags : List Tag} :
    readTags v = some tags ↔ v = tagsValue tags :=
  Value.list?_eq_some_iff fun _ _ =>
    Value.list?_eq_some_iff fun _ _ => Value.string?_eq_some_iff

theorem takes_tags : Json.Reader.string.list.list.Takes readTags :=
  Json.Reader.takes_list (Json.Reader.takes_list Json.Reader.takes_string)

-- A value of the type of a member is taken for it.
theorem readTags_of_isTags (v : Value) (h : IsTags v) : ∃ tags, readTags v = some tags := by
  obtain ⟨tags, htags⟩ := h
  exact ⟨tags, readTags_eq_some_iff.mpr htags⟩

theorem natural?_of_isNatural {C : Type} {limit : Nat} (hold : Nat → C) (v : Value)
    (h : IsNatural limit v) : ∃ c, (v.natural? limit).map hold = some c := by
  obtain ⟨digits, n, hn⟩ := h
  exact ⟨hold n, by rw [Value.natural?_eq_some_iff.mpr ⟨digits, hn⟩, Option.map_some]⟩

variable {vs : List Value}

theorem only_tags {new : Option (List Tag)} (h : Settled readTags none vs new) (hne : vs ≠ []) :
    vs = [tagsValue (new.getD [])] := by
  obtain ⟨v, tags, rfl, hread, rfl⟩ := h.only hne
  rw [readTags_eq_some_iff.mp hread, Option.getD_some]

-- A number that fits its word is the number of the word.
theorem only_natural {C : Type} {limit : Nat} {hold : Nat → C} {back : C → Nat} {new : Option C}
    {default : C} (hback : ∀ n, n ≤ limit → back (hold n) = n)
    (h : Settled (fun v => (v.natural? limit).map hold) none vs new) (hne : vs ≠ []) :
    ∃ digits, vs = [.number digits] ∧ Plain digits (back (new.getD default)) := by
  obtain ⟨v, c, rfl, hread, rfl⟩ := h.only hne
  obtain ⟨n, hn, rfl⟩ := Option.map_eq_some_iff.mp hread
  obtain ⟨digits, rfl, hplain, hle⟩ := Value.natural?_eq_some_iff.mp hn
  refine ⟨digits, rfl, ?_⟩
  rwa [Option.getD_some, hback n hle]

theorem tagsValue_injective {a b : List Tag} (h : tagsValue a = tagsValue b) : a = b := by
  have hread := readTags_eq_some_iff.mpr h
  rw [readTags_eq_some_iff.mpr rfl] at hread
  exact Option.some.inj hread

theorem natural_unique {n m : Nat} (h : ∃ digits, vs = [.number digits] ∧ Plain digits n)
    (h' : ∃ digits, vs = [.number digits] ∧ Plain digits m) : n = m := by
  obtain ⟨digits, rfl, -, hn⟩ := h
  obtain ⟨digits', hdigits, -, hm⟩ := h'
  obtain rfl := Value.number.inj (List.singleton_inj.mp hdigits)
  exact hn.symm.trans hm

end Types

namespace SignedEvent

-- The members of an event and their types, in the order of declaration
def declared : List (String × (Value → Prop)) :=
  [ ("id", IsText), ("pubkey", IsText), ("created_at", IsNatural 18446744073709551615),
    ("kind", IsNatural 65535), ("tags", IsTags), ("content", IsText), ("sig", IsText) ]

-- No member of the event occurs twice, and those that occur have their types.
def Sound (ms : List (String × Value)) : Prop :=
  ∀ d ∈ declared, AtMostOnce d.2 (occurrences d.1 ms)

-- The members that must occur, in the order of declaration
def required : List String :=
  ["id", "created_at", "kind", "tags", "content", "sig"]

def missing (ms : List (String × Value)) : Option String :=
  required.find? fun name => (occurrences name ms).isEmpty

-- The members of an object that are those of an event, each of them once
structure Holds (ms : List (String × Value)) (event : SignedEvent) : Prop where
  id : occurrences "id" ms = [.string event.id]
  pubkey : occurrences "pubkey" ms = [.string event.pubkey] ∨
    occurrences "pubkey" ms = [] ∧ event.pubkey = ""
  createdAt : ∃ digits, occurrences "created_at" ms = [.number digits] ∧
    Plain digits event.createdAt.toNat
  kind : ∃ digits, occurrences "kind" ms = [.number digits] ∧ Plain digits event.kind.toNat
  tags : occurrences "tags" ms = [tagsValue event.tags]
  content : occurrences "content" ms = [.string event.content]
  sig : occurrences "sig" ms = [.string event.sig]

-- The values of an event in the order of declaration
def Row (event : SignedEvent) (vs : List Value) : Prop :=
  ∃ created kind, Plain created event.createdAt.toNat ∧ Plain kind event.kind.toNat ∧
    vs = [.string event.id, .string event.pubkey, .number created, .number kind,
      tagsValue event.tags, .string event.content, .string event.sig]

section Slots

open ChallengeLogin.Json.Reader

def slots : List (Slot Partial) :=
  [ .place "id" true (·.id) (fun s p => { p with id := some s }) takes_string,
    .place "pubkey" false (·.pubkey) (fun s p => { p with pubkey := some s }) takes_string,
    .place "created_at" true (·.createdAt)
      (fun n p => { p with createdAt := some (UInt64.ofNat n) }) (takes_natural (Nat.le_refl _)),
    .place "kind" true (·.kind) (fun n p => { p with kind := some (UInt16.ofNat n) })
      (takes_natural (show 65535 ≤ Json.maxUnsigned by decide)),
    .place "tags" true (·.tags) (fun tags p => { p with tags := some tags }) takes_tags,
    .place "content" true (·.content) (fun s p => { p with content := some s }) takes_string,
    .place "sig" true (·.sig) (fun s p => { p with sig := some s }) takes_string ]

theorem members_eq : members = slots.map (·.toMember) := rfl

-- Two records that are the same but for one place
structure SameBut (name : String) (p q : Partial) : Prop where
  id : name ≠ "id" → q.id = p.id
  pubkey : name ≠ "pubkey" → q.pubkey = p.pubkey
  createdAt : name ≠ "created_at" → q.createdAt = p.createdAt
  kind : name ≠ "kind" → q.kind = p.kind
  tags : name ≠ "tags" → q.tags = p.tags
  content : name ≠ "content" → q.content = p.content
  sig : name ≠ "sig" → q.sig = p.sig

theorem sameBut_of_take {slot : Slot Partial} (hmem : slot ∈ slots) {v : Value}
    {f : Partial → Partial} (htake : slot.take v = some f) (p : Partial) :
    SameBut slot.name p (f p) := by
  simp only [slots, List.mem_cons, List.not_mem_nil, or_false] at hmem
  rcases hmem with rfl | rfl | rfl | rfl | rfl | rfl | rfl <;>
    obtain ⟨a, -, rfl⟩ := Option.map_eq_some_iff.mp htake <;>
    constructor <;> intro hname <;> first | rfl | exact absurd rfl hname

-- Each slot keeps its own place, the two numbers in words of their size.
theorem keeps_id : Keeps slots slots[0] (·.id) Value.string? where
  found := rfl
  present _ := rfl
  own := Json.own_place takes_string fun _ _ => rfl
  others _ hmem hname _ _ htake p := (sameBut_of_take hmem htake p).id hname

theorem keeps_pubkey : Keeps slots slots[1] (·.pubkey) Value.string? where
  found := rfl
  present _ := rfl
  own := Json.own_place takes_string fun _ _ => rfl
  others _ hmem hname _ _ htake p := (sameBut_of_take hmem htake p).pubkey hname

theorem keeps_createdAt : Keeps slots slots[2] (·.createdAt) readCreatedAt where
  found := rfl
  present _ := rfl
  own v p := by
    rw [readCreatedAt, Option.map_map]
    refine Json.own_place (takes_natural (Nat.le_refl _)) ?_ v p
    exact fun _ _ => rfl
  others _ hmem hname _ _ htake p := (sameBut_of_take hmem htake p).createdAt hname

theorem keeps_kind : Keeps slots slots[3] (·.kind) readKind where
  found := rfl
  present _ := rfl
  own v p := by
    rw [readKind, Option.map_map]
    refine Json.own_place (takes_natural (show 65535 ≤ Json.maxUnsigned by decide)) ?_ v p
    exact fun _ _ => rfl
  others _ hmem hname _ _ htake p := (sameBut_of_take hmem htake p).kind hname

theorem keeps_tags : Keeps slots slots[4] (·.tags) readTags where
  found := rfl
  present _ := rfl
  own := Json.own_place takes_tags fun _ _ => rfl
  others _ hmem hname _ _ htake p := (sameBut_of_take hmem htake p).tags hname

theorem keeps_content : Keeps slots slots[5] (·.content) Value.string? where
  found := rfl
  present _ := rfl
  own := Json.own_place takes_string fun _ _ => rfl
  others _ hmem hname _ _ htake p := (sameBut_of_take hmem htake p).content hname

theorem keeps_sig : Keeps slots slots[6] (·.sig) Value.string? where
  found := rfl
  present _ := rfl
  own := Json.own_place takes_string fun _ _ => rfl
  others _ hmem hname _ _ htake p := (sameBut_of_take hmem htake p).sig hname

theorem exists_keeps : ∀ slot ∈ slots, ∃ (C : Type) (get : Partial → Option C)
    (read : Value → Option C), Keeps slots slot get read := by
  simp only [slots, List.forall_mem_cons]
  refine ⟨⟨_, _, _, keeps_id⟩, ⟨_, _, _, keeps_pubkey⟩, ⟨_, _, _, keeps_createdAt⟩,
    ⟨_, _, _, keeps_kind⟩, ⟨_, _, _, keeps_tags⟩, ⟨_, _, _, keeps_content⟩,
    ⟨_, _, _, keeps_sig⟩, ?_⟩
  exact List.forall_mem_nil _

end Slots

section Filled

variable {ms : List (String × Value)} {p : Partial}

theorem exists_fill_of_sound (h : Sound ms) : ∃ p, fill slots {} ms = some p := by
  simp only [Sound, declared, List.forall_mem_cons] at h
  obtain ⟨hid, hpubkey, hcreated, hkind, htags, hcontent, hsig, -⟩ := h
  refine Json.exists_fill_of_open exists_keeps ?_
  simp only [slots, List.forall_mem_cons]
  refine ⟨hid.isOpen keeps_id rfl string?_of_isText,
    hpubkey.isOpen keeps_pubkey rfl string?_of_isText,
    hcreated.isOpen keeps_createdAt rfl (natural?_of_isNatural _),
    hkind.isOpen keeps_kind rfl (natural?_of_isNatural _),
    htags.isOpen keeps_tags rfl readTags_of_isTags,
    hcontent.isOpen keeps_content rfl string?_of_isText,
    hsig.isOpen keeps_sig rfl string?_of_isText, ?_⟩
  exact List.forall_mem_nil _

theorem firstMissing_of_fill (hfill : fill slots {} ms = some p) :
    Json.firstMissing (slots.map (·.toMember)) p = missing ms := by
  have hpresent : ∀ slot ∈ slots, slot.present p = !(occurrences slot.name ms).isEmpty := by
    simp only [slots, List.forall_mem_cons]
    refine ⟨(keeps_id.settled hfill).isSome_eq, (keeps_pubkey.settled hfill).isSome_eq,
      (keeps_createdAt.settled hfill).isSome_eq, (keeps_kind.settled hfill).isSome_eq,
      (keeps_tags.settled hfill).isSome_eq, (keeps_content.settled hfill).isSome_eq,
      (keeps_sig.settled hfill).isSome_eq, ?_⟩
    exact List.forall_mem_nil _
  exact Json.firstMissing_eq slots hpresent

theorem ofJson_of_fill {text : String} (h : Json.SpellsText text (.object ms))
    (hfill : fill slots {} ms = some p) :
    ofJson text = match missing ms with
      | some name => .error (.missingMember name)
      | none => .ok p.complete := by
  rw [ofJson, members_eq, Json.readRecord_of_fill h hfill, firstMissing_of_fill hfill]
  cases missing ms <;> rfl

end Filled

section Values

variable {ms : List (String × Value)} {p : Partial}

theorem occurs_of_missing (h : missing ms = none) {name : String} (hname : name ∈ required) :
    occurrences name ms ≠ [] := by
  intro hnone
  have hfound := List.find?_eq_none.mp h name hname
  rw [hnone] at hfound
  exact hfound rfl

theorem toNat_createdAt (n : Nat) (h : n ≤ Json.maxUnsigned) : (UInt64.ofNat n).toNat = n :=
  UInt64.toNat_ofNat_of_lt' (Nat.lt_succ_of_le h)

theorem toNat_kind (n : Nat) (h : n ≤ 65535) : (UInt16.ofNat n).toNat = n :=
  UInt16.toNat_ofNat_of_lt' (Nat.lt_succ_of_le h)

theorem holds_of_fill (hfill : fill slots {} ms = some p) (hmissing : missing ms = none) :
    Holds ms p.complete where
  id := only_string (keeps_id.settled hfill) (occurs_of_missing hmissing (by decide))
  pubkey := string_or_absent (keeps_pubkey.settled hfill)
  createdAt := only_natural toNat_createdAt (keeps_createdAt.settled hfill)
    (occurs_of_missing hmissing (by decide))
  kind := only_natural toNat_kind (keeps_kind.settled hfill)
    (occurs_of_missing hmissing (by decide))
  tags := only_tags (keeps_tags.settled hfill) (occurs_of_missing hmissing (by decide))
  content := only_string (keeps_content.settled hfill) (occurs_of_missing hmissing (by decide))
  sig := only_string (keeps_sig.settled hfill) (occurs_of_missing hmissing (by decide))

-- What an object holds tells the event.
theorem Holds.unique {a b : SignedEvent} (ha : Holds ms a) (hb : Holds ms b) : a = b := by
  have hpubkey := optional_string_unique ha.pubkey hb.pubkey
  have hcreated : a.createdAt = b.createdAt :=
    UInt64.toNat_inj.mp (natural_unique ha.createdAt hb.createdAt)
  have hkind : a.kind = b.kind := UInt16.toNat_inj.mp (natural_unique ha.kind hb.kind)
  have htags : a.tags = b.tags := by
    refine tagsValue_injective ?_
    exact List.singleton_inj.mp (ha.tags.symm.trans hb.tags)
  have hid := string_unique ha.id hb.id
  have hcontent := string_unique ha.content hb.content
  have hsig := string_unique ha.sig hb.sig
  cases a
  cases b
  rw [SignedEvent.mk.injEq]
  exact ⟨hid, hpubkey, hcreated, hkind, htags, hcontent, hsig⟩

theorem Holds.sound {event : SignedEvent} (h : Holds ms event) : Sound ms := by
  obtain ⟨created, hcreated, hcreatedAt⟩ := h.createdAt
  obtain ⟨kind, hkind, hkindOf⟩ := h.kind
  have hpubkey : AtMostOnce IsText (occurrences "pubkey" ms) := by
    rcases h.pubkey with hone | ⟨hnone, -⟩
    · exact .inr ⟨_, hone, _, rfl⟩
    · exact .inl hnone
  simp only [Sound, declared, List.forall_mem_cons]
  refine ⟨.inr ⟨_, h.id, _, rfl⟩, hpubkey,
    .inr ⟨_, hcreated, created, _, rfl, hcreatedAt, Nat.le_pred_of_lt event.createdAt.toNat_lt⟩,
    .inr ⟨_, hkind, kind, _, rfl, hkindOf, Nat.le_pred_of_lt event.kind.toNat_lt⟩,
    .inr ⟨_, h.tags, _, rfl⟩, .inr ⟨_, h.content, _, rfl⟩, .inr ⟨_, h.sig, _, rfl⟩, ?_⟩
  exact List.forall_mem_nil _

theorem Holds.missing_eq {event : SignedEvent} (h : Holds ms event) : missing ms = none := by
  obtain ⟨created, hcreated, -⟩ := h.createdAt
  obtain ⟨kind, hkind, -⟩ := h.kind
  simp [missing, required, h.id, hcreated, hkind, h.tags, h.content, h.sig]

theorem fillRow_of_row {event : SignedEvent} {vs : List Value} (h : Row event vs) :
    ∃ p : Partial, fillRow {} slots vs = some p ∧ p.complete = event := by
  obtain ⟨created, kind, hcreated, hkind, rfl⟩ := h
  have hcreatedAt : Value.natural? Json.maxUnsigned (.number created) =
      some event.createdAt.toNat :=
    Value.natural?_eq_some_iff.mpr
      ⟨created, rfl, hcreated, Nat.le_pred_of_lt event.createdAt.toNat_lt⟩
  have hkindOf : Value.natural? 65535 (.number kind) = some event.kind.toNat :=
    Value.natural?_eq_some_iff.mpr ⟨kind, rfl, hkind, Nat.le_pred_of_lt event.kind.toNat_lt⟩
  have htags : readTags (tagsValue event.tags) = some event.tags := readTags_eq_some_iff.mpr rfl
  refine ⟨⟨event.id, event.pubkey, event.createdAt, event.kind, event.tags, event.content,
    event.sig⟩, ?_, rfl⟩
  simp [fillRow, slots, Slot.place, hcreatedAt, hkindOf, htags, Value.string?]

end Values

section Texts

variable {text row : String} {ms : List (String × Value)} {vs : List Value} {event : SignedEvent}

theorem ofJson_eq_ok_iff (h : Json.SpellsText text (.object ms)) :
    ofJson text = .ok event ↔ Holds ms event := by
  constructor
  · intro hread
    cases hfill : fill slots {} ms with
    | none =>
      obtain ⟨fault, hfault⟩ := Json.readRecord_of_unfilled h hfill
      rw [ofJson, members_eq, hfault] at hread
      cases hread
    | some p =>
      rw [ofJson_of_fill h hfill] at hread
      cases hmissing : missing ms with
      | some name =>
        rw [hmissing] at hread
        cases hread
      | none =>
        rw [hmissing] at hread
        obtain rfl := Except.ok.inj hread
        exact holds_of_fill hfill hmissing
  · intro hholds
    obtain ⟨p, hfill⟩ := exists_fill_of_sound hholds.sound
    have hcomplete := holds_of_fill hfill hholds.missing_eq
    rw [ofJson_of_fill h hfill, hholds.missing_eq, hholds.unique hcomplete]

theorem exists_holds_iff : (∃ event, Holds ms event) ↔ Sound ms ∧ missing ms = none := by
  constructor
  · rintro ⟨event, h⟩
    exact ⟨h.sound, h.missing_eq⟩
  · rintro ⟨hsound, hmissing⟩
    obtain ⟨p, hfill⟩ := exists_fill_of_sound hsound
    exact ⟨p.complete, holds_of_fill hfill hmissing⟩

theorem ofJson_of_missing (h : Json.SpellsText text (.object ms)) {name : String}
    (hsound : Sound ms) (hmissing : missing ms = some name) :
    ofJson text = .error (.missingMember name) := by
  obtain ⟨p, hfill⟩ := exists_fill_of_sound hsound
  rw [ofJson_of_fill h hfill, hmissing]

theorem ofJson_row (h : Json.SpellsText row (.array vs)) (hrow : Row event vs) :
    ofJson row = .ok event := by
  obtain ⟨p, hfill, rfl⟩ := fillRow_of_row hrow
  obtain ⟨created, kind, -, -, rfl⟩ := hrow
  rw [ofJson, members_eq]
  have hread := Json.readRecord_of_fillRow h rfl hfill
  exact congrArg (Except.map Partial.complete) hread

-- An object is read as an event exactly if its members are sound and none is missing, and then as
-- the event that they hold. A missing member is the fault if there is no other. The values of the
-- event alone, in the order of declaration, are read as the same event.
theorem ofJson_of_object (h : Json.SpellsText text (.object ms)) :
    ((∃ event, ofJson text = .ok event) ↔ Sound ms ∧ missing ms = none) ∧
      (∀ event, ofJson text = .ok event ↔ Holds ms event) ∧
      (∀ name, Sound ms → missing ms = some name →
        ofJson text = .error (.missingMember name)) ∧
      ∀ event, Holds ms event → ∀ row vs, Row event vs → Json.SpellsText row (.array vs) →
        ofJson row = ofJson text := by
  refine ⟨?_, fun event => ofJson_eq_ok_iff h, fun _ => ofJson_of_missing h, ?_⟩
  · rw [← exists_holds_iff]
    exact exists_congr fun event => ofJson_eq_ok_iff h
  · intro event hholds row vs hrow hspells
    rw [ofJson_row hspells hrow, (ofJson_eq_ok_iff h).mpr hholds]

end Texts

section Shuffled

-- Members out of order, a key that is escaped, and members that are not known
def shuffledText : String :=
  "\x7b\"x\":[\x7b\x7d,null],\"sig\":\"s\",\n\"\\u0069d\" : \"e\",\"kind\":7," ++
    "\"tags\":[[\"t\"]],\"content\":\"\",\"x\":true,\"created_at\":0\x7d"

def shuffledMembers : List (String × Value) :=
  [ ("x", .array [.object [], .null]), ("sig", .string "s"), ("id", .string "e"),
    ("kind", .number ['7']), ("tags", tagsValue [["t"]]), ("content", .string ""),
    ("x", .bool true), ("created_at", .number ['0']) ]

def shuffledEvent : SignedEvent :=
  ⟨"e", "", 0, 7, [["t"]], "", "s"⟩

theorem holds_shuffledMembers : Holds shuffledMembers shuffledEvent where
  id := rfl
  pubkey := .inr ⟨rfl, rfl⟩
  createdAt := ⟨['0'], rfl, Json.Reader.plain_decimal 0⟩
  kind := ⟨['7'], rfl, Json.Reader.plain_decimal 7⟩
  tags := rfl
  content := rfl
  sig := rfl

-- The key of the id with its first letter escaped
theorem spellsString_escapedId :
    Json.SpellsString ('"' :: ['\\', 'u', '0', '0', '6', '9', 'd'] ++ ['"']) "id" := by
  have hdigits : Json.FourHex ['0', '0', '6', '9'] (((0 * 16 + 0) * 16 + 6) * 16 + 9) :=
    .digits (.inl rfl) (.inl rfl) (.inl rfl) (.inl rfl)
  have hletter : Json.SpellsEscape ['u', '0', '0', '6', '9'] 'i' :=
    .numbered hdigits (fun h => absurd h.1 (by decide)) (fun h => absurd h.1 (by decide))
  have hplain : Json.SpellsChar ['d'] 'd' := .plain (by decide) (by decide) (by decide)
  have hchars : Json.SpellsChars _ "id".toList := .cons (.escaped hletter) (.cons hplain .nil)
  exact .quoted hchars

theorem spells_shuffledText : Json.SpellsText shuffledText (.object shuffledMembers) := by
  have hunknown : Json.Spells _ (.value (.array [.object [], .null])) :=
    .array (.moreItems (Json.Spells.emptyObject Json.isBlank_nil).unpadded
      (.lastItem Json.Spells.null.unpadded))
  have hline : Json.IsBlank ['\n'] := by decide
  have hspace : Json.IsBlank [' '] := by decide
  have hid : Json.Spells _ (.member "id" (.string "e")) :=
    .member hline spellsString_escapedId hspace
      (.padded hspace (Json.spells_quote "e") Json.isBlank_nil)
  have htags : Json.Spells _ (.value (tagsValue [["t"]])) :=
    Json.spells_array (Json.spells_array Json.spells_quote) [["t"]]
  have hmembers : Json.Spells _ (.members shuffledMembers) :=
    .moreMembers (Json.spells_member "x" hunknown) <|
    .moreMembers (Json.spells_member "sig" (Json.spells_quote "s")) <|
    .moreMembers hid <|
    .moreMembers (Json.spells_member "kind" (Json.spells_decimal 7)) <|
    .moreMembers (Json.spells_member "tags" htags) <|
    .moreMembers (Json.spells_member "content" (Json.spells_quote "")) <|
    .moreMembers (Json.spells_member "x" .yes) <|
    .lastMember (Json.spells_member "created_at" (Json.spells_decimal 0))
  have hall := (Json.Spells.object hmembers).unpadded
  rw [Json.SpellsText]
  convert hall using 1
  decide

-- The values of the event alone
def rowText : String :=
  "[\"e\",\"\",0,7,[[\"t\"]],\"\",\"s\"]"

def rowValues : List Value :=
  [ .string "e", .string "", .number ['0'], .number ['7'], tagsValue [["t"]], .string "",
    .string "s" ]

theorem row_rowValues : Row shuffledEvent rowValues :=
  ⟨['0'], ['7'], Json.Reader.plain_decimal 0, Json.Reader.plain_decimal 7, rfl⟩

theorem spells_rowText : Json.SpellsText rowText (.array rowValues) := by
  have htags : Json.Spells _ (.value (tagsValue [["t"]])) :=
    Json.spells_array (Json.spells_array Json.spells_quote) [["t"]]
  have hitems : Json.Spells _ (.items rowValues) :=
    .moreItems (Json.spells_quote "e").unpadded <|
    .moreItems (Json.spells_quote "").unpadded <|
    .moreItems (Json.spells_decimal 0).unpadded <|
    .moreItems (Json.spells_decimal 7).unpadded <|
    .moreItems htags.unpadded <|
    .moreItems (Json.spells_quote "").unpadded <|
    .lastItem (Json.spells_quote "s").unpadded
  have hall := (Json.Spells.array hitems).unpadded
  rw [Json.SpellsText]
  convert hall using 1
  decide

theorem ofJson_of_object_shuffled :
    Json.SpellsText shuffledText (.object shuffledMembers) ∧
      ofJson shuffledText = .ok shuffledEvent ∧ ofJson rowText = ofJson shuffledText ∧
      ofJson "\x7b\x7d" = .error (.missingMember "id") := by
  have hread := ofJson_of_object spells_shuffledText
  have hempty : Json.SpellsText "\x7b\x7d" (.object []) :=
    (Json.Spells.emptyObject Json.isBlank_nil).unpadded
  have hsound : Sound [] := fun _ _ => .inl rfl
  refine ⟨spells_shuffledText, (hread.2.1 shuffledEvent).mpr holds_shuffledMembers, ?_, ?_⟩
  · exact hread.2.2.2 shuffledEvent holds_shuffledMembers rowText rowValues row_rowValues
      spells_rowText
  · exact (ofJson_of_object hempty).2.2.1 "id" hsound rfl

end Shuffled

end SignedEvent

end ChallengeLogin
