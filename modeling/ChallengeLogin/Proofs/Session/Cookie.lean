import ChallengeLogin.Proofs.Reply
import ChallengeLogin.Proofs.Text.Trimming
import ChallengeLogin.Proofs.Text.Utf8

namespace ChallengeLogin

open ChallengeLogin.Text

-- The numbers of the characters and bytes that no header may hold: controls, but not the tab
def IsControl (n : Nat) : Prop :=
  n < 0x20 ∧ n ≠ 0x09 ∨ n = 0x7F

-- A session with a character that no header may hold
def Session.HasControl (session : String) : Prop :=
  ∃ c ∈ session.toList, IsControl c.toNat

-- A session that some reply sets
def Reply.Captures [Charset.Decoders] (session : String) : Prop :=
  ∃ response reply, Reply.ofResponse response = .ok reply ∧ reply.session = some session

section Values

variable {b : UInt8} {c : Char} {value : Bytes} {text : String}

theorem isSendableValue_iff :
    Http.isSendableValue value = true ↔ ∀ b ∈ value, ¬IsControl b.toNat := by
  simp only [Http.isSendableValue, List.all_eq_true, Bool.or_eq_true, Bool.and_eq_true, bne_iff_ne,
    beq_iff_eq, decide_eq_true_eq, IsControl]
  refine forall₂_congr fun b _ => ?_
  omega

theorem isControl_of_mem_encodeChar (hb : b ∈ Utf8.encodeChar c) :
    IsControl b.toNat ↔ IsControl c.toNat := by
  by_cases hlow : c.toNat < 0x80
  · rw [Utf8.encodeChar_ascii hlow] at hb
    rw [List.mem_singleton.mp hb, UInt8.toNat_ofNat', Nat.mod_eq_of_lt (by omega)]
  · have hhigh := Utf8.le_of_mem_encodeChar (by omega) hb
    rw [IsControl, IsControl]
    omega

theorem isSendableValue_bytesOf :
    Http.isSendableValue (Utf8.bytesOf text) = true ↔ ∀ c ∈ text.toList, ¬IsControl c.toNat := by
  simp only [isSendableValue_iff, Utf8.bytesOf, Utf8.encode, List.mem_flatMap]
  constructor
  · intro h c hc
    obtain ⟨b, hb⟩ := Utf8.exists_mem_encodeChar c
    rw [← isControl_of_mem_encodeChar hb]
    exact h b ⟨c, hc, hb⟩
  · rintro h b ⟨c, hc, hb⟩
    rw [isControl_of_mem_encodeChar hb]
    exact h c hc

-- The bytes that are read as text have the numbers of its characters, and no control among them.
theorem not_isControl_of_visible (h : Http.visibleText? value = some text) :
    ∀ c ∈ text.toList, ¬IsControl c.toNat := by
  obtain ⟨hvisible, rfl⟩ := Http.visibleText_eq_some_iff.mp h
  intro c hc
  rw [String.toList_ofList] at hc
  obtain ⟨b, hb, rfl⟩ := List.mem_map.mp hc
  have hlt := b.toNat_lt
  have hnumber : (Char.ofNat b.toNat).toNat = b.toNat := by
    rw [Char.ofNat, dif_pos (.inl (by omega))]
    rfl
  have hplain := hvisible b hb
  rw [hnumber, IsControl]
  omega

end Values

namespace Session

variable {header session : String}

-- A session is cut from the header that sets it.
theorem sublist_of_ofCookie (h : ofCookie? header = some session) :
    session.toList.Sublist header.toList := by
  simp only [ofCookie?] at h
  split at h
  · cases h
  · rename_i name rest hcut
    split at h
    · have hrest : rest.Sublist (trim isBlank (cutAt (· == ';') header.toList).1) :=
        sublist_of_cutAt (congrArg Prod.snd hcut)
      rw [← Option.some.inj h, String.toList_ofList]
      exact (trim_sublist _ _).trans <| (trim_sublist _ _).trans <| hrest.trans <|
        (trim_sublist _ _).trans (cutAt_sublist _ _)
    · cases h

theorem not_hasControl_of_sessionOf {headers : List Http.Header}
    (h : Reply.sessionOf headers = some session) : ¬HasControl session := by
  obtain ⟨text, htext, hcookie⟩ := List.exists_of_findSome?_eq_some h
  obtain ⟨value, -, hvisible⟩ := List.mem_filterMap.mp htext
  rintro ⟨c, hc, hcontrol⟩
  have hmem : c ∈ text.toList := (sublist_of_ofCookie hcookie).mem hc
  exact not_isControl_of_visible hvisible c hmem hcontrol

theorem not_hasControl_of_captures [Charset.Decoders] (h : Reply.Captures session) :
    ¬HasControl session := by
  obtain ⟨response, reply, hread, hsession⟩ := h
  have hheaders : Reply.sessionOf response.headers = some session := by
    rw [Reply.ofResponse] at hread
    cases htext : response.readText with
    | error fault =>
      rw [htext] at hread
      cases hread
    | ok body =>
      rw [htext] at hread
      cases hread
      exact hsession
  exact not_hasControl_of_sessionOf hheaders

-- What arrives of the cookie of a session: the blanks at its end are lost.
def carried (session : String) : Bytes :=
  Utf8.bytesOf "admin-cookie=" ++ trimEnd Http.isBlankByte (Utf8.bytesOf session)

theorem trim_cookie (session : String) :
    trim Http.isBlankByte (Utf8.bytesOf (cookie session)) = carried session := by
  have hbytes : Utf8.bytesOf (cookie session) =
      Utf8.bytesOf "admin-cookie" ++ 0x3D :: Utf8.bytesOf session := by
    simp only [Utf8.bytesOf, cookie, cookieName, String.toList_append, Utf8.encode_append,
      List.append_assoc]
    rfl
  have hstart : (Utf8.bytesOf (cookie session)).dropWhile Http.isBlankByte =
      Utf8.bytesOf (cookie session) := by
    rw [hbytes]
    rfl
  have hend : Http.isBlankByte 0x3D = false := by decide
  rw [trim, hstart, hbytes, trimEnd_append_cons hend]
  rfl

theorem isSendable_cookie_iff :
    Http.isSendableValue (Utf8.bytesOf (cookie session)) = true ↔ ¬HasControl session := by
  have hsendable : Http.isSendableValue (Utf8.bytesOf (cookieName ++ "=")) = true := by decide
  have hname := isSendableValue_bytesOf.mp hsendable
  rw [isSendableValue_bytesOf, cookie, String.toList_append]
  simp only [List.mem_append, HasControl, not_exists, not_and]
  exact ⟨fun h c hc => h c (.inr hc), fun h c hc => hc.elim (hname c) (h c)⟩

end Session

end ChallengeLogin
