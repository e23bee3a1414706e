import ChallengeLogin.Proofs.Text.Trimming
import ChallengeLogin.Session

namespace ChallengeLogin.Session

open ChallengeLogin.Text

-- What the value of a cookie has between blanks and then between quotes, if there is anything
def Strips (value : List Char) (session : String) : Prop :=
  ∃ bare, Trims isBlank value bare ∧ Trims (· == '"') bare session.toList ∧ session ≠ ""

-- A text that sets a session: in front of its first semicolon stands a pair with the right name,
-- whose value holds the session.
def Sets (text session : String) : Prop :=
  ∃ name value, Leads ';' (name ++ '=' :: value) text.toList ∧ '=' ∉ name ∧
    Trims isBlank name cookieName.toList ∧ Strips value session

section Reading

variable {text session : String} {name value front : List Char}

theorem ofCookie_of_pair (hpair : Leads ';' (name ++ '=' :: value) text.toList)
    (hname : '=' ∉ name) : ofCookie? text =
      if trim isBlank name = cookieName.toList &&
          !(trim (· == '"') (trim isBlank value)).isEmpty then
        some (String.ofList (trim (· == '"') (trim isBlank value)))
      else none := by
  have hequals : isBlank '=' = false := by decide
  have hstart : '=' ∉ name.dropWhile isBlank := fun h => hname ((List.dropWhile_sublist _).mem h)
  simp only [ofCookie?, hpair.cutAt_eq, trim_append_cons hequals, cutAt_append_cons hstart,
    trim_dropWhile, trim_trimEnd]

theorem ofCookie_of_no_pair (hfront : Leads ';' front text.toList) (h : '=' ∉ front) :
    ofCookie? text = none := by
  have hpair : '=' ∉ trim isBlank front := fun hmem => h ((trim_sublist _ _).mem hmem)
  simp only [ofCookie?, hfront.cutAt_eq, cutAt_of_not_mem hpair]

-- Of a pair with the right name, the session is what is left of the value.
theorem ofCookie_eq_some_of_pair (hpair : Leads ';' (name ++ '=' :: value) text.toList)
    (hname : '=' ∉ name) : ofCookie? text = some session ↔
      Trims isBlank name cookieName.toList ∧ Strips value session := by
  rw [ofCookie_of_pair hpair hname]
  constructor
  · intro h
    split at h
    · rename_i hfound
      rw [Bool.and_eq_true, decide_eq_true_eq, Bool.not_eq_true', List.isEmpty_eq_false_iff]
        at hfound
      obtain rfl := Option.some.inj h
      refine ⟨trim_eq_iff.mp hfound.1, _, trims_trim _ _, ?_, ?_⟩
      · rw [String.toList_ofList]
        exact trims_trim _ _
      · exact fun hempty => hfound.2 (String.ofList_eq_empty_iff.mp hempty)
    · cases h
  · rintro ⟨hnamed, bare, hbare, hsession, hne⟩
    have hfull : session.toList ≠ [] := fun h => hne (String.toList_eq_nil_iff.mp h)
    rw [trim_eq_iff.mpr hnamed, trim_eq_iff.mpr hbare, trim_eq_iff.mpr hsession,
      List.isEmpty_eq_false_iff.mpr hfull, String.ofList_toList, decide_eq_true rfl]
    rfl

theorem ofCookie_eq_some_iff : ofCookie? text = some session ↔ Sets text session := by
  constructor
  · intro h
    obtain ⟨front, hfront⟩ := exists_leads ';' text.toList
    by_cases hequals : '=' ∈ front
    · obtain ⟨name, value, rfl, hname⟩ := List.eq_append_cons_of_mem hequals
      exact ⟨name, value, hfront, hname, (ofCookie_eq_some_of_pair hfront hname).mp h⟩
    · rw [ofCookie_of_no_pair hfront hequals] at h
      cases h
  · rintro ⟨name, value, hpair, hname, hsets⟩
    exact (ofCookie_eq_some_of_pair hpair hname).mpr hsets

-- Nothing behind the first semicolon has a say in the session.
theorem ofCookie_congr {other : String} (htext : Leads ';' front text.toList)
    (hother : Leads ';' front other.toList) : ofCookie? other = ofCookie? text := by
  simp only [ofCookie?, htext.cutAt_eq, hother.cutAt_eq]

end Reading

section Sessions

variable {text session : String} {value : List Char}

theorem Strips.sublist (h : Strips value session) : session.toList.Sublist value := by
  obtain ⟨bare, hbare, hsession, -⟩ := h
  exact hsession.sublist.trans hbare.sublist

theorem Strips.ne_empty (h : Strips value session) : session ≠ "" := by
  obtain ⟨_, -, -, hne⟩ := h
  exact hne

theorem Strips.bare (h : Strips value session) : Bare (· == '"') session.toList := by
  obtain ⟨_, -, hsession, -⟩ := h
  exact hsession.bare

theorem Sets.strips (h : Sets text session) :
    ∃ value, Strips value session ∧ value.Sublist text.toList ∧ ';' ∉ value := by
  obtain ⟨name, value, hpair, -, -, hstrips⟩ := h
  have hvalue : value.Sublist (name ++ '=' :: value) :=
    (List.sublist_cons_self _ _).trans (List.sublist_append_right _ _)
  exact ⟨value, hstrips, hvalue.trans hpair.sublist, fun hmem => hpair.1 (hvalue.mem hmem)⟩

theorem Sets.no_semicolon (h : Sets text session) : ';' ∉ session.toList := by
  obtain ⟨value, hstrips, -, hvalue⟩ := h.strips
  exact fun hmem => hvalue (hstrips.sublist.mem hmem)

end Sessions

section Replaying

variable {text session other : String}

theorem toList_cookie (session : String) :
    (cookie session).toList = cookieName.toList ++ '=' :: session.toList := by
  rw [cookie, String.toList_append, String.toList_append, List.append_assoc]
  rfl

-- The text that replays a session is a pair of the right name with the session as it stands.
theorem ofCookie_cookie (h : ';' ∉ session.toList) :
    ofCookie? (cookie session) = some other ↔ Strips session.toList other := by
  have hleads : ';' ∉ cookieName.toList ++ '=' :: session.toList := by
    rw [List.mem_append, List.mem_cons]
    rintro (hname | hequals | hsession)
    · exact absurd hname (by decide)
    · exact absurd hequals (by decide)
    · exact h hsession
  have hname : Trims isBlank cookieName.toList cookieName.toList := trim_eq_iff.mp (by decide)
  have hpair : Leads ';' (cookieName.toList ++ '=' :: session.toList) (cookie session).toList :=
    ⟨hleads, .inl (toList_cookie session)⟩
  rw [ofCookie_eq_some_of_pair hpair (by decide)]
  exact and_iff_right hname

-- Quotes are gone from the ends of a session, so that only blanks can be lost.
theorem strips_self_iff (h : Bare (· == '"') session.toList) (hne : session ≠ "") :
    Strips session.toList session ↔ Bare isBlank session.toList := by
  constructor
  · rintro ⟨bare, hbare, hsession, -⟩
    have hsame : bare = session.toList := hbare.sublist.eq_of_length_le hsession.sublist.length_le
    rw [← hsame]
    exact hbare.bare
  · intro hblank
    exact ⟨_, trim_eq_iff.mp hblank.trim_eq, trim_eq_iff.mp h.trim_eq, hne⟩

-- A text without quotes sets no session with blanks at its ends.
theorem Sets.bare_of_unquoted (h : Sets text session) (hquote : '"' ∉ text.toList) :
    Bare isBlank session.toList := by
  obtain ⟨value, ⟨bare, hbare, hsession, -⟩, hvalue, -⟩ := h.strips
  have hplain : ∀ c ∈ bare, (c == '"') = false := fun c hc => by
    rw [beq_eq_false_iff_ne]
    rintro rfl
    exact hquote (hvalue.mem (hbare.sublist.mem hc))
  have hwhole : trim (· == '"') bare = bare :=
    Bare.trim_eq ⟨fun c hc => hplain c (List.mem_of_head? hc),
      fun c hc => hplain c (List.mem_of_getLast? hc)⟩
  rw [← trim_eq_iff.mpr hsession, hwhole]
  exact hbare.bare

-- The text that replays a session sets the session without the blanks at its ends and the quotes
-- behind them, and so the same session exactly if it has no blanks there. Sessions of texts that are
-- not quoted have none.
theorem replayed_iff_bare (h : ofCookie? text = some session) :
    (∀ other, ofCookie? (cookie session) = some other ↔ Strips session.toList other) ∧
      (ofCookie? (cookie session) = some session ↔ Bare isBlank session.toList) ∧
      ('"' ∉ text.toList → ofCookie? (cookie session) = some session) := by
  have hsets := ofCookie_eq_some_iff.mp h
  obtain ⟨value, hstrips, -⟩ := hsets.strips
  have hreplay (other : String) := @ofCookie_cookie session other hsets.no_semicolon
  have hself : ofCookie? (cookie session) = some session ↔ Bare isBlank session.toList :=
    (hreplay session).trans (strips_self_iff hstrips.bare hstrips.ne_empty)
  exact ⟨hreplay, hself, fun hquote => hself.mpr (hsets.bare_of_unquoted hquote)⟩

-- A quoted value, attributes and a second pair, and a session with a quote and an equals sign in it
theorem replayed_quoted :
    ofCookie? "admin-cookie = \"a\"=b\"\" ; Path=/; admin-cookie=c" = some "a\"=b" ∧
      ofCookie? (cookie "a\"=b") = some "a\"=b" := by
  have hset : ofCookie? "admin-cookie = \"a\"=b\"\" ; Path=/; admin-cookie=c" = some "a\"=b" := by
    decide
  obtain ⟨-, hself, -⟩ := replayed_iff_bare hset
  exact ⟨hset, hself.mpr (trim_eq_self_iff.mp (by decide))⟩

-- The blank between the quotes belongs to the session, and is lost when the session is replayed.
theorem replayed_without_blank :
    ofCookie? "admin-cookie=\" jwt\"" = some " jwt" ∧
      ofCookie? (cookie " jwt") = some "jwt" ∧ ofCookie? (cookie " jwt") ≠ some " jwt" := by
  decide

end Replaying

end ChallengeLogin.Session
