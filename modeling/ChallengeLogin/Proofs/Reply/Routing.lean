import ChallengeLogin.Proofs.Http.Headers
import ChallengeLogin.Proofs.Reply

namespace ChallengeLogin.Reply

open ChallengeLogin.Text
open ChallengeLogin.Http (DifferLater Header Rearranged Response valueOf? valuesOf without)

-- What is decided about a response once it has been read
def decided [Charset.Decoders] (response : Response) : Except Http.Fault Decision :=
  (ofResponse response).map decision

-- Changes to the header lines of a reply that leave its decision as it is
inductive Immaterial (headers others : List Header) : Prop
  | rearranged (h : Rearranged headers others)
  | later (h : DifferLater retargetHeader headers others)
  -- the first line of the region header, and all the others of it, where it names no region
  | unnamed (h : without retargetHeader headers = without retargetHeader others)
      (hheaders : ∀ target, ¬Names headers target) (hothers : ∀ target, ¬Names others target)

section Deciding

variable {response : Response}

theorem isSuccess_iff {status : Nat} :
    Http.isSuccess status = true ↔ 200 ≤ status ∧ status ≤ 299 := by
  simp only [Http.isSuccess, Bool.and_eq_true, decide_eq_true_eq]
  omega

-- A target that has been read is not blank, so that no second look at it takes it away.
theorem filter_targetOf (headers : List Header) :
    (targetOf headers).filter (!allBlank ·) = targetOf headers := by
  cases htarget : targetOf headers with
  | none => rfl
  | some target =>
    obtain ⟨-, -, -, -, hblank⟩ := targetOf_eq_some_iff.mp htarget
    simp [allBlank_eq_false_iff.mpr hblank]

variable [Charset.Decoders]

theorem decided_of_complete (h : response.complete = true) :
    decided response = .ok (ofComplete response).decision := by
  rw [decided, ofResponse_of_complete h]
  rfl

theorem decision_cases (response : Response) :
    (∃ target, Names response.headers target ∧
        (ofComplete response).decision = .patch response.status target response.text) ∨
      (∀ target, ¬Names response.headers target) ∧
        (Http.isSuccess response.status = true ∧ (ofComplete response).decision =
            .navigate dashboardPath (sessionOf response.headers) ∨
          Http.isSuccess response.status = false ∧
            (ofComplete response).decision = .unhandled response.status response.text) := by
  by_cases htarget : ∃ target, Names response.headers target
  · obtain ⟨target, htarget⟩ := htarget
    exact .inl ⟨target, htarget, decision_of_names htarget⟩
  · rw [not_exists] at htarget
    refine .inr ⟨htarget, ?_⟩
    by_cases hstatus : Http.isSuccess response.status = true
    · exact .inl ⟨hstatus, decision_of_success htarget hstatus⟩
    · rw [Bool.not_eq_true] at hstatus
      exact .inr ⟨hstatus, decision_of_refusal htarget hstatus⟩

theorem decision_eq_patch_iff {status : Nat} {target html : String} :
    (ofComplete response).decision = .patch status target html ↔
      Names response.headers target ∧ status = response.status ∧ html = response.text := by
  constructor
  · intro h
    rcases decision_cases response with ⟨named, hnamed, hpatch⟩ | ⟨-, ⟨-, hother⟩ | ⟨-, hother⟩⟩
    · cases h.symm.trans hpatch
      exact ⟨hnamed, rfl, rfl⟩
    · cases h.symm.trans hother
    · cases h.symm.trans hother
  · rintro ⟨hnamed, rfl, rfl⟩
    exact decision_of_names hnamed

theorem decision_eq_navigate_iff {path : String} {session : Option String} :
    (ofComplete response).decision = .navigate path session ↔
      (∀ target, ¬Names response.headers target) ∧ Http.isSuccess response.status = true ∧
        path = dashboardPath ∧ session = sessionOf response.headers := by
  constructor
  · intro h
    rcases decision_cases response with
      ⟨_, -, hother⟩ | ⟨hunnamed, ⟨hstatus, hnavigate⟩ | ⟨-, hother⟩⟩
    · cases h.symm.trans hother
    · cases h.symm.trans hnavigate
      exact ⟨hunnamed, hstatus, rfl, rfl⟩
    · cases h.symm.trans hother
  · rintro ⟨hunnamed, hstatus, rfl, rfl⟩
    exact decision_of_success hunnamed hstatus

theorem decision_eq_unhandled_iff {status : Nat} {body : String} :
    (ofComplete response).decision = .unhandled status body ↔
      (∀ target, ¬Names response.headers target) ∧ Http.isSuccess response.status = false ∧
        status = response.status ∧ body = response.text := by
  constructor
  · intro h
    rcases decision_cases response with
      ⟨_, -, hother⟩ | ⟨hunnamed, ⟨-, hother⟩ | ⟨hstatus, hunhandled⟩⟩
    · cases h.symm.trans hother
    · cases h.symm.trans hother
    · cases h.symm.trans hunhandled
      exact ⟨hunnamed, hstatus, rfl, rfl⟩
  · rintro ⟨hunnamed, hstatus, rfl, rfl⟩
    exact decision_of_refusal hunnamed hstatus

end Deciding

section Influence

variable {headers others : List Header}

theorem Immaterial.targetOf_eq (h : Immaterial headers others) :
    targetOf others = targetOf headers := by
  cases h with
  | rearranged h => rw [targetOf, targetOf, valueOf?, valueOf?, h.valuesOf_eq]
  | later h => rw [targetOf, targetOf, h.valueOf_eq]
  | unnamed _ hheaders hothers =>
    rw [targetOf_eq_none_iff.mpr hheaders, targetOf_eq_none_iff.mpr hothers]

theorem Immaterial.valuesOf_eq (h : Immaterial headers others) {name : String}
    (hname : Http.sameName name retargetHeader = false) :
    valuesOf name others = valuesOf name headers := by
  cases h with
  | rearranged h => exact (h.valuesOf_eq name).symm
  | later h => exact (Http.valuesOf_eq_of_without hname h.without_eq).symm
  | unnamed h => exact (Http.valuesOf_eq_of_without hname h).symm

-- Replies with the same status, target and body differ in nothing but the session of the dashboard.
theorem decision_of_other_session {reply other : Reply} (hstatus : other.status = reply.status)
    (htarget : other.target = reply.target) (hbody : other.body = reply.body) :
    other.decision = reply.decision ∨
      reply.decision = .navigate dashboardPath reply.session ∧
        other.decision = .navigate dashboardPath other.session := by
  rw [decision, decision, hstatus, htarget, hbody]
  cases reply.target.filter (!allBlank ·) with
  | some target => exact .inl rfl
  | none =>
    by_cases hsuccess : Http.isSuccess reply.status = true
    · simp only [if_pos hsuccess]
      exact .inr ⟨trivial, trivial⟩
    · simp only [if_neg hsuccess]
      exact .inl trivial

variable [Charset.Decoders]

theorem text_eq_of_contentType (status : Nat) (body : Bytes) (complete : Bool)
    (h : valueOf? "content-type" headers = valueOf? "content-type" others) :
    (⟨status, others, body, complete⟩ : Response).text =
      (⟨status, headers, body, complete⟩ : Response).text := by
  simp only [Response.text, Http.MediaType.charsetOf, h]

theorem Immaterial.decided_eq (h : Immaterial headers others) (status : Nat) (body : Bytes) :
    decided ⟨status, others, body, true⟩ = decided ⟨status, headers, body, true⟩ := by
  have hsession : sessionOf others = sessionOf headers := by
    rw [sessionOf, sessionOf, h.valuesOf_eq (by decide)]
  have htype : valueOf? "content-type" headers = valueOf? "content-type" others := by
    rw [valueOf?, valueOf?, h.valuesOf_eq (by decide)]
  rw [decided_of_complete rfl, decided_of_complete rfl]
  simp only [ofComplete, h.targetOf_eq, hsession, text_eq_of_contentType status body true htype]

theorem decided_of_other_cookies (status : Nat) (body : Bytes)
    (h : without "set-cookie" headers = without "set-cookie" others) :
    decided ⟨status, others, body, true⟩ = decided ⟨status, headers, body, true⟩ ∨
      ∃ session session',
        decided ⟨status, headers, body, true⟩ = .ok (.navigate dashboardPath session) ∧
        decided ⟨status, others, body, true⟩ = .ok (.navigate dashboardPath session') := by
  have hvalue {name : String} (hname : Http.sameName name "set-cookie" = false) :
      valueOf? name headers = valueOf? name others :=
    congrArg List.head? (Http.valuesOf_eq_of_without hname h)
  have htarget : targetOf others = targetOf headers := by
    rw [targetOf, targetOf, hvalue (by decide)]
  have htext := text_eq_of_contentType status body true (hvalue (by decide))
  rw [decided_of_complete rfl, decided_of_complete rfl]
  have hdecisions := @decision_of_other_session (ofComplete ⟨status, headers, body, true⟩)
    (ofComplete ⟨status, others, body, true⟩) rfl htarget htext
  rcases hdecisions with hsame | ⟨hfirst, hother⟩
  · exact .inl (congrArg Except.ok hsame)
  · exact .inr ⟨_, _, congrArg Except.ok hfirst, congrArg Except.ok hother⟩

-- A whole reply is rendered where its first region header is visible and not blank; else its status
-- decides. The header has no say beyond that, cookies have a say in the session of the dashboard
-- alone, and a target that has been read needs no second look.
theorem decided_of_whole (status : Nat) (headers : List Header) (body : Bytes) :
    ∃ reply, ofResponse ⟨status, headers, body, true⟩ = .ok reply ∧
      reply.target.filter (!allBlank ·) = reply.target ∧
      (∀ status' target html, reply.decision = .patch status' target html ↔
        Names headers target ∧ status' = status ∧ html = reply.body) ∧
      (∀ path session, reply.decision = .navigate path session ↔
        (∀ target, ¬Names headers target) ∧ (200 ≤ status ∧ status ≤ 299) ∧
          path = "/admin" ∧ session = reply.session) ∧
      (∀ status' text, reply.decision = .unhandled status' text ↔
        (∀ target, ¬Names headers target) ∧ ¬(200 ≤ status ∧ status ≤ 299) ∧
          status' = status ∧ text = reply.body) ∧
      (∀ others, Immaterial headers others →
        decided ⟨status, others, body, true⟩ = .ok reply.decision) ∧
      ∀ others, without "set-cookie" headers = without "set-cookie" others →
        decided ⟨status, others, body, true⟩ = .ok reply.decision ∨
          ∃ session session', reply.decision = .navigate "/admin" session ∧
            decided ⟨status, others, body, true⟩ = .ok (.navigate "/admin" session') := by
  have hdecided : decided ⟨status, headers, body, true⟩ = .ok (ofComplete _).decision :=
    decided_of_complete rfl
  refine ⟨_, ofResponse_of_complete rfl, filter_targetOf headers,
    fun _ _ _ => decision_eq_patch_iff, ?_, ?_, ?_, ?_⟩
  · intro path session
    rw [decision_eq_navigate_iff, isSuccess_iff]
    rfl
  · intro status' text
    rw [decision_eq_unhandled_iff, ← Bool.not_eq_true, isSuccess_iff]
    rfl
  · intro others h
    rw [h.decided_eq, hdecided]
  · intro others h
    rcases decided_of_other_cookies status body h with hsame | ⟨session, session', hfirst, hother⟩
    · exact .inl (hsame.trans hdecided)
    · rw [hdecided] at hfirst
      exact .inr ⟨session, session', Except.ok.inj hfirst, hother⟩

end Influence

section Sample

attribute [local instance] Charset.Decoders.ascii

-- A region in front of one that cannot be read, and a region behind a blank one
theorem decided_by_first_region :
    (∃ reply, ofResponse ⟨422, [⟨"Hx-Retarget", Utf8.bytesOf " box"⟩, ⟨"HX-RETARGET", [0xFF]⟩],
        [], true⟩ = .ok reply ∧ reply.decision = .patch 422 " box" "") ∧
      ∃ reply, ofResponse ⟨422, [⟨"Hx-Retarget", [0x20]⟩, ⟨"HX-RETARGET", Utf8.bytesOf "box"⟩],
        [], true⟩ = .ok reply ∧ reply.decision = .unhandled 422 "" := by
  obtain ⟨named, hnamed, -, hpatch, -⟩ := decided_of_whole 422
    [⟨"Hx-Retarget", Utf8.bytesOf " box"⟩, ⟨"HX-RETARGET", [0xFF]⟩] []
  obtain ⟨unnamed, hunnamed, -, -, -, hunhandled, -⟩ := decided_of_whole 422
    [⟨"Hx-Retarget", [0x20]⟩, ⟨"HX-RETARGET", Utf8.bytesOf "box"⟩] []
  refine ⟨⟨named, hnamed, (hpatch _ _ _).mpr ⟨?_, rfl, ?_⟩⟩,
    unnamed, hunnamed, (hunhandled _ _).mpr ⟨?_, by decide, rfl, ?_⟩⟩
  · exact targetOf_eq_some_iff.mp (by decide)
  · cases hnamed
    decide
  · exact targetOf_eq_none_iff.mp (by decide)
  · cases hunnamed
    decide

end Sample

end ChallengeLogin.Reply
