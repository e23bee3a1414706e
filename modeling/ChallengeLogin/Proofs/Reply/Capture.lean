import ChallengeLogin.Proofs.Reply
import ChallengeLogin.Proofs.Session.Reading

namespace ChallengeLogin.Reply

open ChallengeLogin.Text
open ChallengeLogin.Http (Header valuesOf visibleText?)

-- A cookie line that sets a session: it is visible ASCII, and the text that it spells does so.
def Brings (value : Bytes) (session : String) : Prop :=
  ∃ text, (∀ b ∈ value, (0x20 ≤ b.toNat ∧ b.toNat ≤ 0x7E) ∨ b.toNat = 0x09) ∧
    text = String.ofList (value.map fun b => Char.ofNat b.toNat) ∧ Session.Sets text session

-- A cookie line that sets no session, such as one of another cookie or of an empty session
def Idle (value : Bytes) : Prop :=
  ∀ session, ¬Brings value session

-- The first line that sets a session sets this one.
def FirstBrings (values : List Bytes) (session : String) : Prop :=
  ∃ before value after, values = before ++ value :: after ∧ (∀ other ∈ before, Idle other) ∧
    Brings value session

-- Two lines of visible ASCII that differ at most behind the first semicolon
def SamePair (value other : Bytes) : Prop :=
  ∃ text text' pair, visibleText? value = some text ∧ visibleText? other = some text' ∧
    Leads ';' pair text.toList ∧ Leads ';' pair text'.toList

-- Changes to cookie lines that leave the session as it is
inductive Varies : List Bytes → List Bytes → Prop
  | nil : Varies [] []
  | kept (value : Bytes) {values others : List Bytes} (h : Varies values others) :
      Varies (value :: values) (value :: others)
  | continued {value other : Bytes} {values others : List Bytes} (hpair : SamePair value other)
      (h : Varies values others) : Varies (value :: values) (other :: others)
  | inserted {value : Bytes} {values others : List Bytes} (hidle : Idle value)
      (h : Varies values others) : Varies values (value :: others)
  | deleted {value : Bytes} {values others : List Bytes} (hidle : Idle value)
      (h : Varies values others) : Varies (value :: values) others

section Lines

variable {value other : Bytes} {values others : List Bytes} {headers : List Header}
  {session : String}

-- The session that a line sets
def sessionIn? (value : Bytes) : Option String :=
  (visibleText? value).bind Session.ofCookie?

theorem sessionIn_eq_some_iff : sessionIn? value = some session ↔ Brings value session := by
  simp only [sessionIn?, Option.bind_eq_some_iff, Http.visibleText_eq_some_iff,
    Session.ofCookie_eq_some_iff, Brings, and_assoc]

theorem sessionIn_eq_none_iff : sessionIn? value = none ↔ Idle value := by
  simp only [Option.eq_none_iff_forall_ne_some, ne_eq, sessionIn_eq_some_iff, Idle]

theorem sessionOf_eq (headers : List Header) :
    sessionOf headers = (valuesOf "set-cookie" headers).findSome? sessionIn? := by
  rw [sessionOf, ← List.head?_filterMap, List.filterMap_filterMap, List.head?_filterMap]
  rfl

theorem sessionOf_eq_some_iff :
    sessionOf headers = some session ↔ FirstBrings (valuesOf "set-cookie" headers) session := by
  rw [sessionOf_eq, List.findSome?_eq_some_iff, FirstBrings]
  constructor
  · rintro ⟨before, value, after, hvalues, hfound, hbefore⟩
    exact ⟨before, value, after, hvalues,
      fun other hmem => sessionIn_eq_none_iff.mp (hbefore other hmem),
      sessionIn_eq_some_iff.mp hfound⟩
  · rintro ⟨before, value, after, hvalues, hbefore, hbrings⟩
    exact ⟨before, value, after, hvalues, sessionIn_eq_some_iff.mpr hbrings,
      fun other hmem => sessionIn_eq_none_iff.mpr (hbefore other hmem)⟩

theorem sessionOf_eq_none_iff :
    sessionOf headers = none ↔ ∀ value ∈ valuesOf "set-cookie" headers, Idle value := by
  simp only [sessionOf_eq, List.findSome?_eq_none_iff, sessionIn_eq_none_iff]

theorem SamePair.sessionIn_eq (h : SamePair value other) :
    sessionIn? other = sessionIn? value := by
  obtain ⟨text, text', pair, htext, htext', hpair, hpair'⟩ := h
  rw [sessionIn?, sessionIn?, htext, htext', Option.bind_some, Option.bind_some]
  exact Session.ofCookie_congr hpair hpair'

-- By induction on the changes: lines that set no session are passed over on either side.
theorem Varies.findSome_eq (h : Varies values others) :
    others.findSome? sessionIn? = values.findSome? sessionIn? := by
  induction h with
  | nil => rfl
  | kept value h ih => rw [List.findSome?_cons, List.findSome?_cons, ih]
  | continued hpair h ih => rw [List.findSome?_cons, List.findSome?_cons, hpair.sessionIn_eq, ih]
  | inserted hidle h ih => rw [List.findSome?_cons, sessionIn_eq_none_iff.mpr hidle, ih]
  | deleted hidle h ih => rw [List.findSome?_cons, sessionIn_eq_none_iff.mpr hidle, ih]

theorem FirstBrings.sets (h : FirstBrings values session) : ∃ text, Session.Sets text session := by
  obtain ⟨_, _, _, -, -, text, -, -, hsets⟩ := h
  exact ⟨text, hsets⟩

end Lines

-- A reply that has come whole brings the session of the first line that sets one, and none where
-- no line does. Lines that set none may come and go, and lines may go on behind their first
-- semicolon as they like. What is brought is the inside of a pair.
theorem brings_first_session [Charset.Decoders] (status : Nat) (headers : List Header)
    (body : Bytes) :
    ∃ reply, ofResponse ⟨status, headers, body, true⟩ = .ok reply ∧
      (∀ session, reply.session = some session ↔
        FirstBrings (valuesOf "set-cookie" headers) session) ∧
      (reply.session = none ↔ ∀ value ∈ valuesOf "set-cookie" headers, Idle value) ∧
      (∀ status' others body', Varies (valuesOf "set-cookie" headers) (valuesOf "set-cookie" others) →
        ∃ other, ofResponse ⟨status', others, body', true⟩ = .ok other ∧
          other.session = reply.session) ∧
      ∀ session, reply.session = some session →
        session ≠ "" ∧ ';' ∉ session.toList ∧ session.toList.head? ≠ some '"' ∧
          session.toList.getLast? ≠ some '"' := by
  refine ⟨_, ofResponse_of_complete rfl, fun session => sessionOf_eq_some_iff,
    sessionOf_eq_none_iff, fun status' others body' hvaries => ?_, fun session hsession => ?_⟩
  · refine ⟨_, ofResponse_of_complete rfl, ?_⟩
    have hsame := hvaries.findSome_eq
    rwa [← sessionOf_eq, ← sessionOf_eq] at hsame
  · obtain ⟨text, hsets⟩ := (sessionOf_eq_some_iff.mp hsession).sets
    obtain ⟨value, hstrips, -⟩ := hsets.strips
    refine ⟨hstrips.ne_empty, hsets.no_semicolon, fun hstart => ?_, fun hend => ?_⟩
    · exact absurd (hstrips.bare.head _ hstart) (by decide)
    · exact absurd (hstrips.bare.last _ hend) (by decide)

section Sample

attribute [local instance] Charset.Decoders.ascii

-- Another cookie, a session that is cleared, a line that is no text, and then a session
def crowded : List Header :=
  [⟨"Set-Cookie", Utf8.bytesOf "theme=dark; admin-cookie=x"⟩,
    ⟨"Set-Cookie", Utf8.bytesOf "admin-cookie=\"\"; Max-Age=0"⟩, ⟨"Set-Cookie", [0xFF]⟩,
    ⟨"Set-Cookie", Utf8.bytesOf "admin-cookie=\"a=b\"; Path=/; admin-cookie=c"⟩,
    ⟨"Set-Cookie", Utf8.bytesOf "admin-cookie=d"⟩]

-- The same sessions without the other lines, and without anything behind them
def sparse : List Header :=
  [⟨"set-cookie", Utf8.bytesOf "admin-cookie=\"a=b\""⟩,
    ⟨"set-cookie", Utf8.bytesOf "admin-cookie=d"⟩]

theorem samePair_quoted : SamePair (Utf8.bytesOf "admin-cookie=\"a=b\"; Path=/; admin-cookie=c")
    (Utf8.bytesOf "admin-cookie=\"a=b\"") :=
  ⟨"admin-cookie=\"a=b\"; Path=/; admin-cookie=c", "admin-cookie=\"a=b\"",
    "admin-cookie=\"a=b\"".toList, by decide +kernel, by decide +kernel,
    ⟨by decide, .inr ⟨" Path=/; admin-cookie=c".toList, rfl⟩⟩, by decide, .inl rfl⟩

theorem varies_crowded : Varies (valuesOf "set-cookie" crowded) (valuesOf "set-cookie" sparse) :=
  .deleted (sessionIn_eq_none_iff.mp (by decide)) <|
    .deleted (sessionIn_eq_none_iff.mp (by decide)) <|
    .deleted (sessionIn_eq_none_iff.mp (by decide)) <|
    .continued samePair_quoted <| .kept _ .nil

theorem brings_first_of_crowded :
    Varies (valuesOf "set-cookie" crowded) (valuesOf "set-cookie" sparse) ∧
      ∃ reply, ofResponse ⟨200, crowded, [], true⟩ = .ok reply ∧ reply.session = some "a=b" ∧
        ∃ other, ofResponse ⟨401, sparse, [], true⟩ = .ok other ∧ other.session = some "a=b" := by
  obtain ⟨reply, hreply, hsome, -, hvaries, -⟩ := brings_first_session 200 crowded []
  obtain ⟨other, hother, hsame⟩ := hvaries 401 sparse [] varies_crowded
  have hfirst : reply.session = some "a=b" := by
    refine (hsome "a=b").mpr (sessionOf_eq_some_iff.mp ?_)
    decide +kernel
  exact ⟨varies_crowded, reply, hreply, hfirst, other, hother, hsame.trans hfirst⟩

end Sample

end ChallengeLogin.Reply
