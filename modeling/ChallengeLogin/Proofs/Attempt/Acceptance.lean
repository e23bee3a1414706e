import ChallengeLogin.Proofs.Attempt.Outcome
import ChallengeLogin.Proofs.Event.Json
import ChallengeLogin.Proofs.Http.Body

namespace ChallengeLogin.Attempt

open ChallengeLogin.Http (Hop Replied LastCarrying DropsBody isSuccess)

section Carrying

variable {base : Url} {now : Moment} {signer : Signer} {form : Form} {peer : Http.Peer}

theorem body_request (url : Url) (event : SignedEvent) :
    (request url event).body = Text.Utf8.bytesOf event.toJson := by
  rw [request]

theorem body_request_ne_nil (url : Url) (event : SignedEvent) : (request url event).body ≠ [] := by
  have hopen : event.toJson.toList = '\x7b' :: event.toJson.toList.tail := by
    rw [SignedEvent.toJson_eq, String.toList_ofList]
    rfl
  rw [body_request, Text.Utf8.bytesOf, hopen, Text.Utf8.encode_cons]
  exact fun hnil => absurd (List.append_eq_nil_iff.mp hnil).1 (by decide)

-- The hops of an attempt that got a reply, and the last of them that carried the signed event
def Carried (base : Url) (now : Moment) (signer : Signer) (form : Form) (peer : Http.Peer)
    (hops : List Hop) (carrier : Hop) : Prop :=
  ∃ event url, (signer.ask (UnsignedEvent.ofNonce form.nonce now.time)).1 = .ok event ∧
    base.join loginPath = .ok url ∧ Replied (request url event) peer hops ∧
    LastCarrying (Text.Utf8.bytesOf event.toJson) hops carrier

theorem Carried.unique {hops others : List Hop} {carrier other : Hop}
    (h : Carried base now signer form peer hops carrier)
    (h' : Carried base now signer form peer others other) : others = hops ∧ other = carrier := by
  obtain ⟨event, url, hsigned, hurl, hreplied, hcarries⟩ := h
  obtain ⟨event', url', hsigned', hurl', hreplied', hcarries'⟩ := h'
  cases hsigned.symm.trans hsigned'
  cases hurl.symm.trans hurl'
  obtain rfl := hreplied.unique hreplied'
  exact ⟨rfl, hcarries.unique hcarries'⟩

end Carrying

section Navigation

variable [Http.Client] {base location : Url} {flowId : String} {now : Moment} {signer : Signer}
  {form : Form} {peer : Http.Peer} {session : Option String}

theorem success_of_conclude {response : Http.Response}
    (h : (conclude base flowId response).result = .ok (.navigated location session)) :
    isSuccess response.status = true := by
  by_cases hbody : response.complete = true
  · rw [(conclude_of_complete base flowId hbody).1] at h
    by_cases htarget : ∃ target, Reply.Names response.headers target
    · obtain ⟨target, htarget⟩ := htarget
      rw [Reply.decision_of_names htarget] at h
      cases h
    · rw [not_exists] at htarget
      by_contra hstatus
      rw [Reply.decision_of_refusal htarget (Bool.eq_false_iff.mpr hstatus)] at h
      cases h
  · rw [(conclude_of_incomplete base flowId (Bool.eq_false_iff.mpr hbody)).1] at h
    cases h

-- An attempt that navigates has posted its event, and its exchange has ended in a success.
theorem exchange_of_navigated
    (h : (submit base now signer form peer).result = .ok (.navigated location session)) :
    ∃ event url response, (signer.ask (UnsignedEvent.ofNonce form.nonce now.time)).1 = .ok event ∧
      base.join loginPath = .ok url ∧
      ((request url event).exchange peer).ending = .ok response ∧
      isSuccess response.status = true := by
  cases hsigned : (signer.ask (UnsignedEvent.ofNonce form.nonce now.time)).1 with
  | error rejection =>
    obtain ⟨left, hask⟩ := Signer.exists_ask hsigned
    simp only [submit, hask] at h
    cases h
  | ok event =>
    obtain ⟨left, hask⟩ := Signer.exists_ask hsigned
    cases hurl : base.join loginPath with
    | error fault =>
      simp only [submit, hask, post, hurl] at h
      cases h
    | ok url =>
      rw [(submit_of_signed hurl hsigned peer).1] at h
      cases hending : ((request url event).exchange peer).ending with
      | error fault =>
        rw [hending] at h
        cases h
      | ok response =>
        rw [hending] at h
        exact ⟨event, url, response, rfl, rfl, hending, success_of_conclude h⟩

theorem exists_carried_of_navigated
    (h : (submit base now signer form peer).result = .ok (.navigated location session)) :
    ∃ hops carrier, Carried base now signer form peer hops carrier ∧
      (submit base now signer form peer).requests = hops.map (·.request.received) ∧
      (isSuccess carrier.reply.status = true ↔ ∀ hop ∈ hops, ¬DropsBody hop.reply.status) := by
  obtain ⟨event, url, response, hsigned, hurl, hending, hstatus⟩ := exchange_of_navigated h
  obtain ⟨before, last, hreplied⟩ := Http.exists_replied hending
  obtain ⟨carrier, hcarries, hcases⟩ :=
    hreplied.exists_lastCarrying (body_request_ne_nil url event)
  rw [body_request] at hcarries
  refine ⟨_, carrier, ⟨event, url, hsigned, hurl, hreplied, hcarries⟩, ?_, ?_⟩
  · rw [(submit_of_signed hurl hsigned peer).2.2, hreplied.requests_eq]
  have hfinal : ¬DropsBody response.status := by
    intro hdrops
    rw [Http.isSuccess_of_dropsBody hdrops] at hstatus
    cases hstatus
  rcases hcases with ⟨rfl, hkeep⟩ | ⟨hmem, hdrops⟩
  · refine ⟨fun _ hop hmem => ?_, fun _ => hstatus⟩
    rcases List.mem_append.mp hmem with hmem | hmem
    · exact hkeep hop hmem
    · rwa [List.mem_singleton.mp hmem]
  · rw [Http.isSuccess_of_dropsBody hdrops]
    refine ⟨fun hsuccess => absurd hsuccess Bool.false_ne_true, fun hall => ?_⟩
    exact absurd hdrops (hall carrier (List.mem_append_left _ hmem))

-- Where an attempt navigates, the event was answered by a success exactly if no redirect on the way
-- dropped it.
theorem navigated_answered_by_success_iff
    (h : (submit base now signer form peer).result = .ok (.navigated location session)) :
    (∃ hops carrier, Carried base now signer form peer hops carrier) ∧
      ∀ hops carrier, Carried base now signer form peer hops carrier →
        (submit base now signer form peer).requests = hops.map (·.request.received) ∧
          (isSuccess carrier.reply.status = true ↔
            ∀ hop ∈ hops, ¬DropsBody hop.reply.status) := by
  obtain ⟨hops, carrier, hcarried, hrequests, hiff⟩ := exists_carried_of_navigated h
  refine ⟨⟨hops, carrier, hcarried⟩, fun others other hother => ?_⟩
  obtain ⟨rfl, rfl⟩ := hcarried.unique hother
  exact ⟨hrequests, hiff⟩

end Navigation

section Sample

attribute [local instance] Http.Client.plain

-- The page behind a redirect
def page : Http.Response :=
  ⟨200, [], Text.Utf8.bytesOf "ok", true⟩

-- A redirect that has the event posted again
def repetition : Http.Response :=
  { detour with status := 307 }

theorem navigated_after_repetition :
    (submit loopback epoch sampleSigner sampleForm
      ⟨[.reply repetition, .reply page], true⟩).result =
        .ok (.navigated (loopback.withPath ["admin"]) none) ∧
      ∃ hops carrier,
        Carried loopback epoch sampleSigner sampleForm ⟨[.reply repetition, .reply page], true⟩ hops
          carrier ∧
        (isSuccess carrier.reply.status = true ↔ ∀ hop ∈ hops, ¬DropsBody hop.reply.status) := by
  have hnavigated : (submit loopback epoch sampleSigner sampleForm
      ⟨[.reply repetition, .reply page], true⟩).result =
        .ok (.navigated (loopback.withPath ["admin"]) none) := by decide +kernel
  obtain ⟨⟨hops, carrier, hcarried⟩, hall⟩ := navigated_answered_by_success_iff hnavigated
  exact ⟨hnavigated, hops, carrier, hcarried, (hall hops carrier hcarried).2⟩

def loopbackLogin : Url :=
  loopback.withPath ["admin", "login"]

-- The request that posts the event, as it is sent
def posted : Http.Request :=
  { request loopbackLogin sampleEvent with
    headers := (request loopbackLogin sampleEvent).headers ++ [Http.userAgent] }

-- The request that a redirect without the event leads to
def asked : Http.Request :=
  ⟨.get, loopbackLogin, [Http.userAgent], []⟩

theorem carried_before_detour :
    Carried loopback epoch sampleSigner sampleForm ⟨[.reply detour, .reply page], true⟩
      [⟨posted, detour.received⟩, ⟨asked, page.received⟩] ⟨posted, detour.received⟩ := by
  have hready : (request loopbackLogin sampleEvent).prepared = .ok posted := by decide +kernel
  have hredirect : posted.redirect? detour.received = some asked := by decide +kernel
  have hfinal : asked.redirect? page.received = none := by decide +kernel
  have hsite := Url.isSite_of_parse parse_loopback rfl
  have hbody := body_request loopbackLogin sampleEvent
  refine ⟨sampleEvent, loopbackLogin, rfl, Url.join_loginPath hsite, ?_, ?_⟩
  · exact ⟨posted, asked, [⟨posted, detour.received⟩], page, by decide, [], hready, rfl,
      .onward hredirect rfl (.here _ _), by decide, hfinal, rfl⟩
  · refine ⟨[], [⟨asked, page.received⟩], rfl, hbody, fun later hmem => ?_⟩
    rw [List.mem_singleton.mp hmem, ← hbody]
    exact (body_request_ne_nil loopbackLogin sampleEvent).symm

-- The event was answered by a redirect, and yet the attempt navigates.
theorem navigated_though_redirected :
    (submit loopback epoch sampleSigner sampleForm ⟨[.reply detour, .reply page], true⟩).result =
        .ok (.navigated (loopback.withPath ["admin"]) none) ∧
      ∃ hops carrier,
        Carried loopback epoch sampleSigner sampleForm ⟨[.reply detour, .reply page], true⟩ hops
          carrier ∧
        carrier.reply.status = 302 ∧ isSuccess carrier.reply.status = false := by
  refine ⟨by decide +kernel, _, _, carried_before_detour, rfl, rfl⟩

end Sample

end ChallengeLogin.Attempt
