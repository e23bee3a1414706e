import ChallengeLogin.Proofs.Challenge
import ChallengeLogin.Proofs.Json.StringMembers
import ChallengeLogin.Proofs.Json.Written
import ChallengeLogin.Proofs.Reply.Routing
import ChallengeLogin.Proofs.Text.Utf8

namespace ChallengeLogin

open ChallengeLogin.Json (AtMostOnce Keeps Slot Value fill occurrences)
open ChallengeLogin.Text

namespace PageParameters

-- The members of an object that are those of page parameters
structure Holds (ms : List (String × Value)) (parameters : PageParameters) : Prop where
  nonce : occurrences "Nonce" ms = [.string parameters.nonce]
  adminKey : occurrences "ADMINNPUB" ms = [.string parameters.adminKey] ∨
    occurrences "ADMINNPUB" ms = [] ∧ parameters.adminKey = ""

section Slots

open ChallengeLogin.Json.Reader

def slots : List (Slot Partial) :=
  [ .place "Nonce" true (·.nonce) (fun s p => { p with nonce := some s }) takes_string,
    .place "ADMINNPUB" false (·.adminKey) (fun s p => { p with adminKey := some s }) takes_string ]

theorem members_eq : members = slots.map (·.toMember) := rfl

-- Each of the two slots fills its own place and leaves the other one alone.
theorem kept_by_take {slot : Slot Partial} (hmem : slot ∈ slots) {v : Value}
    {f : Partial → Partial} (htake : slot.take v = some f) (p : Partial) :
    (slot.name ≠ "Nonce" → (f p).nonce = p.nonce) ∧
      (slot.name ≠ "ADMINNPUB" → (f p).adminKey = p.adminKey) := by
  simp only [slots, List.mem_cons, List.not_mem_nil, or_false] at hmem
  rcases hmem with rfl | rfl <;> obtain ⟨s, -, rfl⟩ := Option.map_eq_some_iff.mp htake
  · exact ⟨fun hname => absurd rfl hname, fun _ => rfl⟩
  · exact ⟨fun _ => rfl, fun hname => absurd rfl hname⟩

theorem keeps_nonce : Keeps slots slots[0] (·.nonce) Value.string? where
  found := rfl
  present _ := rfl
  own := Json.own_place takes_string fun _ _ => rfl
  others _ hmem hname _ _ htake p := (kept_by_take hmem htake p).1 hname

theorem keeps_adminKey : Keeps slots slots[1] (·.adminKey) Value.string? where
  found := rfl
  present _ := rfl
  own := Json.own_place takes_string fun _ _ => rfl
  others _ hmem hname _ _ htake p := (kept_by_take hmem htake p).2 hname

theorem exists_keeps : ∀ slot ∈ slots, ∃ (C : Type) (get : Partial → Option C)
    (read : Value → Option C), Keeps slots slot get read := by
  simp only [slots, List.forall_mem_cons]
  refine ⟨⟨_, _, _, keeps_nonce⟩, ⟨_, _, _, keeps_adminKey⟩, ?_⟩
  exact List.forall_mem_nil _

end Slots

section Filled

variable {ms : List (String × Value)} {p : Partial} {parameters : PageParameters}

theorem exists_fill_of_once (hnonce : AtMostOnce IsText (occurrences "Nonce" ms))
    (hkey : AtMostOnce IsText (occurrences "ADMINNPUB" ms)) : ∃ p, fill slots {} ms = some p := by
  refine Json.exists_fill_of_open exists_keeps ?_
  simp only [slots, List.forall_mem_cons]
  refine ⟨hnonce.isOpen keeps_nonce rfl string?_of_isText,
    hkey.isOpen keeps_adminKey rfl string?_of_isText, ?_⟩
  exact List.forall_mem_nil _

-- The nonce is the only member that can be missing.
theorem firstMissing_of_fill (hfill : fill slots {} ms = some p) :
    Json.firstMissing (slots.map (·.toMember)) p =
      if occurrences "Nonce" ms = [] then some "Nonce" else none := by
  have hpresent : ∀ slot ∈ slots, slot.present p = !(occurrences slot.name ms).isEmpty := by
    simp only [slots, List.forall_mem_cons]
    refine ⟨(keeps_nonce.settled hfill).isSome_eq, (keeps_adminKey.settled hfill).isSome_eq, ?_⟩
    exact List.forall_mem_nil _
  have hrequired : (slots.filter (·.required)).map (·.name) = ["Nonce"] := rfl
  rw [Json.firstMissing_eq slots hpresent, hrequired]
  cases hnonce : occurrences "Nonce" ms <;> simp [hnonce]

theorem holds_of_fill (hfill : fill slots {} ms = some p) (hnonce : occurrences "Nonce" ms ≠ []) :
    Holds ms p.complete where
  nonce := only_string (keeps_nonce.settled hfill) hnonce
  adminKey := string_or_absent (keeps_adminKey.settled hfill)

theorem Holds.unique {other : PageParameters} (h : Holds ms parameters) (h' : Holds ms other) :
    parameters = other := by
  have hnonce := string_unique h.nonce h'.nonce
  have hkey := optional_string_unique h.adminKey h'.adminKey
  cases parameters
  cases other
  rw [PageParameters.mk.injEq]
  exact ⟨hnonce, hkey⟩

theorem Holds.once (h : Holds ms parameters) : AtMostOnce IsText (occurrences "Nonce" ms) ∧
    AtMostOnce IsText (occurrences "ADMINNPUB" ms) := by
  refine ⟨.inr ⟨_, h.nonce, _, rfl⟩, ?_⟩
  rcases h.adminKey with hone | ⟨hnone, -⟩
  · exact .inr ⟨_, hone, _, rfl⟩
  · exact .inl hnone

theorem exists_holds_iff : (∃ parameters, Holds ms parameters) ↔
    (∃ s, occurrences "Nonce" ms = [.string s]) ∧
      AtMostOnce IsText (occurrences "ADMINNPUB" ms) := by
  constructor
  · rintro ⟨parameters, h⟩
    exact ⟨⟨_, h.nonce⟩, h.once.2⟩
  · rintro ⟨⟨s, hs⟩, hnone | ⟨v, hone, t, rfl⟩⟩
    · exact ⟨⟨s, ""⟩, hs, .inr ⟨hnone, rfl⟩⟩
    · exact ⟨⟨s, t⟩, hs, .inl hone⟩

end Filled

section Texts

variable {text : String} {ms : List (String × Value)} {parameters : PageParameters}

theorem ofJson_of_fill {p : Partial} (h : Json.SpellsText text (.object ms))
    (hfill : fill slots {} ms = some p) :
    ofJson text = if occurrences "Nonce" ms = [] then .error (.missingMember "Nonce")
      else .ok p.complete := by
  rw [ofJson, ofSymbols, members_eq, Json.readRecord_of_fill h hfill, firstMissing_of_fill hfill]
  by_cases hnonce : occurrences "Nonce" ms = []
  · simp only [if_pos hnonce]
    rfl
  · simp only [if_neg hnonce]
    rfl

theorem ofJson_eq_ok_iff (h : Json.SpellsText text (.object ms)) :
    ofJson text = .ok parameters ↔ Holds ms parameters := by
  constructor
  · intro hread
    cases hfill : fill slots {} ms with
    | none =>
      obtain ⟨fault, hfault⟩ := Json.readRecord_of_unfilled h hfill
      rw [ofJson, ofSymbols, members_eq, hfault] at hread
      cases hread
    | some p =>
      rw [ofJson_of_fill h hfill] at hread
      split at hread
      · cases hread
      · obtain rfl := Except.ok.inj hread
        exact holds_of_fill hfill ‹_›
  · intro hholds
    have hnonce : occurrences "Nonce" ms ≠ [] := by
      rw [hholds.nonce]
      exact List.cons_ne_nil _ _
    obtain ⟨p, hfill⟩ := exists_fill_of_once hholds.once.1 hholds.once.2
    rw [ofJson_of_fill h hfill, if_neg hnonce, hholds.unique (holds_of_fill hfill hnonce)]

-- The bytes of a text are read as the text is.
theorem ofBytes_bytesOf (text : String) : ofBytes (Utf8.bytesOf text) = ofJson text := by
  rw [ofBytes, Utf8.bytesOf, Utf8.symbols_encode, ofJson]

end Texts

end PageParameters

namespace Challenge

open ChallengeLogin.Http (Ends Peer Response isSuccess)
open ChallengeLogin.PageParameters (Holds)

section Replies

variable [Charset.Decoders] {base page : Url} {peer : Peer} {response : Response}

theorem fetch_of_ends (hpage : base.join loginPath = .ok page)
    (hends : Ends (request page) peer (.ok response)) :
    (fetch base peer).result = ofResponse response := by
  rw [(fetch_of_join hpage peer).2.2, hends.eq_ending]
  rfl

theorem ofResponse_of_page {text : String} (hstatus : isSuccess response.status = true)
    (hwhole : response.complete = true) (hbody : response.body = Utf8.bytesOf text) :
    ofResponse response = (PageParameters.ofJson text).mapError fun _ => .network .badBody := by
  simp only [ofResponse, hstatus, hwhole, hbody, PageParameters.ofBytes_bytesOf, Bool.not_true,
    Bool.false_eq_true, if_false]
  cases PageParameters.ofJson text <;> rfl

theorem ofResponse_of_refusal (hstatus : isSuccess response.status = false) :
    ∃ body, response.Tells body ∧
      ofResponse response = .error (.refused response.status body) := by
  refine ⟨_, response.tells_readText, ?_⟩
  simp only [ofResponse, hstatus, Bool.not_false, if_true]

end Replies

-- An object is read as page parameters exactly if it holds the nonce once and the key at most once,
-- as strings, and its form tells the nonce as it stands. Fetched as bytes, it yields what it is
-- read as, whatever the headers say of it; a refusal is told with its status and with what its body
-- is read as.
theorem fetched_as_read [Charset.Decoders] {text : String} {ms : List (String × Value)}
    (h : Json.SpellsText text (.object ms)) :
    ((∃ parameters, PageParameters.ofJson text = .ok parameters) ↔
        (∃ s, occurrences "Nonce" ms = [.string s]) ∧
          AtMostOnce IsText (occurrences "ADMINNPUB" ms)) ∧
      (∀ parameters, PageParameters.ofJson text = .ok parameters ↔ Holds ms parameters) ∧
      (∀ parameters, PageParameters.ofJson text = .ok parameters →
        occurrences "Nonce" ms = [.string parameters.form.nonce]) ∧
      ∀ base page peer response, base.join loginPath = .ok page →
        Ends (request page) peer (.ok response) →
        (200 ≤ response.status ∧ response.status ≤ 299 → response.complete = true →
          response.body = Utf8.bytesOf text →
          (fetch base peer).result =
            (PageParameters.ofJson text).mapError fun _ => .network .badBody) ∧
        (¬(200 ≤ response.status ∧ response.status ≤ 299) → ∃ body, response.Tells body ∧
          (fetch base peer).result = .error (.refused response.status body)) := by
  refine ⟨?_, fun parameters => PageParameters.ofJson_eq_ok_iff h, ?_, ?_⟩
  · rw [← PageParameters.exists_holds_iff]
    exact exists_congr fun parameters => PageParameters.ofJson_eq_ok_iff h
  · intro parameters hread
    rw [PageParameters.form, Form.nonce_ofNonce]
    exact ((PageParameters.ofJson_eq_ok_iff h).mp hread).nonce
  · intro base page peer response hpage hends
    rw [fetch_of_ends hpage hends]
    refine ⟨fun hstatus hwhole hbody => ?_, fun hstatus => ?_⟩
    · exact ofResponse_of_page (Reply.isSuccess_iff.mpr hstatus) hwhole hbody
    · refine ofResponse_of_refusal (Bool.eq_false_iff.mpr fun hsuccess => hstatus ?_)
      exact Reply.isSuccess_iff.mp hsuccess

section Sample

-- Members that are not known around the known ones, and the key of the nonce with an escape in it
def escapedPage : String :=
  "\x7b\"x\":[\x7b\x7d,null],\"ADMINNPUB\":\"npub\",\n\"\\u004eonce\" : \"\\\"𝄞\",\"x\":true\x7d"

def escapedMembers : List (String × Value) :=
  [ ("x", .array [.object [], .null]), ("ADMINNPUB", .string "npub"), ("Nonce", .string "\"𝄞"),
    ("x", .bool true) ]

theorem spellsString_escapedNonce :
    Json.SpellsString ('"' :: ['\\', 'u', '0', '0', '4', 'e', 'o', 'n', 'c', 'e'] ++ ['"'])
      "Nonce" := by
  have hdigits : Json.FourHex ['0', '0', '4', 'e'] (((0 * 16 + 0) * 16 + 4) * 16 + 14) :=
    .digits (.inl rfl) (.inl rfl) (.inl rfl) (.inl rfl)
  have hletter : Json.SpellsEscape ['u', '0', '0', '4', 'e'] 'N' :=
    .numbered hdigits (fun h => absurd h.1 (by decide)) (fun h => absurd h.1 (by decide))
  have hplain (c : Char) (hc : c ≠ '"' ∧ c ≠ '\\' ∧ 0x20 ≤ c.toNat) : Json.SpellsChar [c] c :=
    .plain hc.1 hc.2.1 hc.2.2
  have hchars : Json.SpellsChars _ "Nonce".toList :=
    .cons (.escaped hletter) <| .cons (hplain 'o' (by decide)) <|
      .cons (hplain 'n' (by decide)) <| .cons (hplain 'c' (by decide)) <|
      .cons (hplain 'e' (by decide)) .nil
  exact .quoted hchars

theorem spells_escapedPage : Json.SpellsText escapedPage (.object escapedMembers) := by
  have hunknown : Json.Spells _ (.value (.array [.object [], .null])) :=
    .array (.moreItems (Json.Spells.emptyObject Json.isBlank_nil).unpadded
      (.lastItem Json.Spells.null.unpadded))
  have hline : Json.IsBlank ['\n'] := by decide
  have hspace : Json.IsBlank [' '] := by decide
  have hnonce : Json.Spells _ (.member "Nonce" (.string "\"𝄞")) :=
    .member hline spellsString_escapedNonce hspace
      (.padded hspace (Json.spells_quote "\"𝄞") Json.isBlank_nil)
  have hmembers : Json.Spells _ (.members escapedMembers) :=
    .moreMembers (Json.spells_member "x" hunknown) <|
    .moreMembers (Json.spells_member "ADMINNPUB" (Json.spells_quote "npub")) <|
    .moreMembers hnonce <|
    .lastMember (Json.spells_member "x" .yes)
  have hall := (Json.Spells.object hmembers).unpadded
  rw [Json.SpellsText]
  convert hall using 1
  decide

-- The URL that `http://mint.example/shop` is read as, and the one of its login page
def shop : Url :=
  { scheme := "http", host := some (.domain "mint.example"), path := .segments ["shop"] }

def shopLogin : Url :=
  shop.withPath ["admin", "login"]

-- A redirect to another host
def elsewhere : Response :=
  ⟨307, [⟨"Location", Utf8.bytesOf "http://other.example/"⟩], [], true⟩

-- The page under a charset that is not its own, and how it reads then
def mislabelled (status : Nat) : Response :=
  ⟨status, [⟨"Content-Type", Utf8.bytesOf "text/html; charset=ISO-8859-1"⟩],
    Utf8.bytesOf escapedPage, true⟩

def misreadPage : String :=
  "\x7b\"x\":[\x7b\x7d,null],\"ADMINNPUB\":\"npub\",\n" ++
    "\"\\u004eonce\" : \"\\\"ð\x9d„ž\",\"x\":true\x7d"

attribute [local instance] Charset.Decoders.ascii

-- Behind a redirect, the page tells its parameters with a success; with a refusal it is no more
-- than a text, and nothing if it breaks off.
theorem fetched_as_read_mislabelled :
    Json.SpellsText escapedPage (.object escapedMembers) ∧
      PageParameters.ofJson escapedPage = .ok ⟨"\"𝄞", "npub"⟩ ∧
      (fetch shop ⟨[.reply elsewhere, .reply (mislabelled 200)], true⟩).result =
        .ok ⟨"\"𝄞", "npub"⟩ ∧
      (fetch shop ⟨[.reply (mislabelled 500)], true⟩).result =
        .error (.refused 500 misreadPage) ∧
      (fetch shop ⟨[.reply { mislabelled 500 with complete := false }], true⟩).result =
        .error (.refused 500 "") := by
  obtain ⟨-, hread, -, hfetch⟩ := fetched_as_read spells_escapedPage
  have hholds : Holds escapedMembers ⟨"\"𝄞", "npub"⟩ := ⟨rfl, .inl rfl⟩
  have hparameters := (hread _).mpr hholds
  have hpage : shop.join loginPath = .ok shopLogin := by decide +kernel
  have hfound : Ends (request shopLogin) ⟨[.reply elsewhere, .reply (mislabelled 200)], true⟩
      (.ok (mislabelled 200)) := Http.ends_iff.mpr (by decide +kernel)
  have hrefused : Ends (request shopLogin) ⟨[.reply (mislabelled 500)], true⟩
      (.ok (mislabelled 500)) := Http.ends_iff.mpr (by decide +kernel)
  have hbroken : Ends (request shopLogin)
      ⟨[.reply { mislabelled 500 with complete := false }], true⟩
      (.ok { mislabelled 500 with complete := false }) := Http.ends_iff.mpr (by decide +kernel)
  have hmisread : (mislabelled 500).Reads misreadPage :=
    Response.reads_iff.mpr (by decide +kernel)
  obtain ⟨told, htold, htext⟩ := (hfetch shop shopLogin _ _ hpage hrefused).2 (by decide)
  obtain ⟨none, hnone, hnothing⟩ := (hfetch shop shopLogin _ _ hpage hbroken).2 (by decide)
  rw [Response.Tells.unique (.whole rfl hmisread) htold] at htext
  rw [Response.Tells.unique (.broken rfl) hnone] at hnothing
  refine ⟨spells_escapedPage, hparameters, ?_, htext, hnothing⟩
  rw [(hfetch shop shopLogin _ _ hpage hfound).1 (by decide) rfl rfl, hparameters]
  rfl

end Sample

end Challenge

end ChallengeLogin
