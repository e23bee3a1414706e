import ChallengeLogin.Proofs.Attempt.Acceptance
import ChallengeLogin.Proofs.Http.Cookies

namespace ChallengeLogin

open ChallengeLogin.Http (Peer Response)

section Fetching

-- The report of a fetch that has been the same but for the cookies
def Challenge.Report.withoutCookies (report : Challenge.Report) : Challenge.Report :=
  { report with peer := report.peer.withoutCookies }

theorem Challenge.ofResponse_withoutCookies [Text.Charset.Decoders] (response : Response) :
    ofResponse response.withoutCookies = ofResponse response := by
  rw [ofResponse, ofResponse, Http.readText_withoutCookies]
  rfl

theorem Challenge.fetch_withoutCookies [Text.Charset.Decoders] (base : Url) (peer : Peer) :
    fetch base peer.withoutCookies = (fetch base peer).withoutCookies := by
  rw [fetch, fetch]
  cases base.join loginPath with
  | error fault => rfl
  | ok url =>
    simp only [Http.exchange_withoutCookies, Http.Exchange.withoutCookies]
    cases ((request url).exchange peer).ending with
    | error fault => rfl
    | ok response =>
      simp only [Except.map, ofResponse_withoutCookies]
      cases ofResponse response <;> rfl

end Fetching

section Reading

def Reply.withoutSession (reply : Reply) : Reply :=
  { reply with session := none }

def Decision.withoutSession : Decision → Decision
  | .navigate path _ => .navigate path none
  | .patch status target html => .patch status target html
  | .unhandled status body => .unhandled status body

variable (response : Response)

theorem Reply.sessionOf_withoutCookies : sessionOf response.withoutCookies.headers = none := by
  rw [sessionOf, Response.withoutCookies, Http.valuesOf_without_self]
  rfl

theorem Reply.targetOf_withoutCookies :
    targetOf response.withoutCookies.headers = targetOf response.headers := by
  rw [targetOf, targetOf, Http.valueOf_withoutCookies response (by decide)]

theorem Reply.hasUnreadableTarget_withoutCookies :
    hasUnreadableTarget response.withoutCookies.headers =
      hasUnreadableTarget response.headers := by
  rw [hasUnreadableTarget, hasUnreadableTarget, Http.valueOf_withoutCookies response (by decide)]

theorem Reply.ofResponse_withoutCookies [Text.Charset.Decoders] :
    ofResponse response.withoutCookies = (ofResponse response).map withoutSession := by
  rw [ofResponse, ofResponse, Http.readText_withoutCookies, sessionOf_withoutCookies,
    targetOf_withoutCookies]
  cases response.readText <;> rfl

theorem Reply.decision_withoutSession (reply : Reply) :
    reply.withoutSession.decision = reply.decision.withoutSession := by
  have htarget : reply.withoutSession.target = reply.target := rfl
  have hstatus : reply.withoutSession.status = reply.status := rfl
  rw [decision, decision, htarget, hstatus]
  cases reply.target.filter (!Text.allBlank ·) with
  | some target => rfl
  | none =>
    by_cases hsuccess : Http.isSuccess reply.status = true
    · simp only [if_pos hsuccess]
      rfl
    · simp only [if_neg hsuccess]
      rfl

end Reading

namespace Attempt

section Outcomes

def Outcome.withoutSession : Outcome → Outcome
  | .navigated location _ => .navigated location none
  | .patched status selector => .patched status selector

def Effect.withoutSession (effect : Effect (Except Fault Outcome)) :
    Effect (Except Fault Outcome) :=
  { effect with result := effect.result.map Outcome.withoutSession }

theorem carryOut_withoutSession (base : Url) (decision : Decision) :
    carryOut base decision.withoutSession = (carryOut base decision).withoutSession := by
  cases decision with
  | navigate path session =>
    rw [carryOut, Decision.withoutSession, carryOut]
    cases base.join path <;> rfl
  | patch status target html => rfl
  | unhandled status body => rfl

theorem patches_of_carryOut {base location : Url} {session : Option String}
    {decision : Decision}
    (h : (carryOut base decision).result = .ok (.navigated location session)) :
    (carryOut base decision).patches = [] := by
  cases decision with
  | navigate path session =>
    rw [carryOut]
    cases base.join path <;> rfl
  | patch status target html => cases h
  | unhandled status body => cases h

variable [Http.Client]

theorem conclude_withoutCookies (base : Url) (flowId : String) (response : Response) :
    conclude base flowId response.withoutCookies =
      (conclude base flowId response).withoutSession := by
  rw [conclude, conclude, Reply.ofResponse_withoutCookies, Reply.hasUnreadableTarget_withoutCookies]
  cases Reply.ofResponse response with
  | error fault => rfl
  | ok reply =>
    simp only [Except.map, Reply.decision_withoutSession, carryOut_withoutSession]
    rfl

theorem settle_withoutCookies (base : Url) (flowId : String)
    (ending : Except Http.Fault Response) :
    settle base flowId (ending.map Response.withoutCookies) =
      (settle base flowId ending).withoutSession := by
  cases ending with
  | error fault => rfl
  | ok response => exact conclude_withoutCookies base flowId response

end Outcomes

section Reports

variable [Http.Client] (base : Url) (now : Moment) (signer : Signer) (form : Form) (peer : Peer)

-- The report of an attempt that has been the same but for the cookies
def Report.withoutCookies (report : Report) : Report :=
  { report with
    result := report.result.map Outcome.withoutSession
    peer := report.peer.withoutCookies }

theorem post_withoutCookies (flowId : String) (event : SignedEvent) :
    post base flowId event peer.withoutCookies =
      ((post base flowId event peer).1.withoutSession, (post base flowId event peer).2.1,
        (post base flowId event peer).2.2.withoutCookies) := by
  rw [post, post]
  cases base.join loginPath with
  | error fault => rfl
  | ok url =>
    simp only [Http.exchange_withoutCookies, Http.Exchange.withoutCookies, settle_withoutCookies]
    rfl

theorem submit_withoutCookies :
    submit base now signer form peer.withoutCookies =
      (submit base now signer form peer).withoutCookies := by
  rw [submit, submit]
  rcases signer.ask (UnsignedEvent.ofNonce form.nonce now.time) with ⟨signed, left⟩
  cases signed with
  | error rejection => rfl
  | ok event =>
    simp only [post_withoutCookies]
    rfl

variable {base now signer form peer} {location : Url} {session : Option String}

-- What navigates puts no patches in place.
theorem patches_of_navigated
    (h : (submit base now signer form peer).result = .ok (.navigated location session)) :
    (submit base now signer form peer).patches = [] := by
  obtain ⟨event, url, response, hsigned, hurl, hending, -⟩ := exchange_of_navigated h
  obtain ⟨hresult, hpatches, -⟩ := submit_of_signed hurl hsigned peer
  rw [hending, settle] at hresult hpatches
  rw [hpatches]
  cases hreply : Reply.ofResponse response with
  | error fault => simp only [conclude, hreply]
  | ok reply =>
    simp only [conclude, hreply] at hresult ⊢
    exact patches_of_carryOut (hresult.symm.trans h)

end Reports

end Attempt

end ChallengeLogin
