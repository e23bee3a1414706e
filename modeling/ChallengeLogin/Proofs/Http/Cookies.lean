import ChallengeLogin.Http.Exchange

namespace ChallengeLogin.Http

section Erasure

-- A reply without the cookies that it sets
def Response.withoutCookies (response : Response) : Response :=
  { response with headers := without "set-cookie" response.headers }

-- Without its cookies a reply has no more header lines than with them.
theorem isFinal_withoutCookies {response : Response} (final : response.isFinal) :
    response.withoutCookies.isFinal := by
  simp only [Response.isFinal, Bool.and_eq_true, decide_eq_true_eq] at final ⊢
  exact ⟨Nat.le_trans (List.length_filter_le _ _) final.1, final.2⟩

def Answer.withoutCookies : Answer → Answer
  | .reply response final => .reply response.withoutCookies (isFinal_withoutCookies final)
  | .dropped => .dropped

-- A peer that answers as another one does and sets no cookies
def Peer.withoutCookies (peer : Peer) : Peer :=
  { peer with answers := peer.answers.map Answer.withoutCookies }

-- An exchange that has been the same but for the cookies
def Exchange.withoutCookies (exchange : Exchange) : Exchange :=
  { exchange with
    ending := exchange.ending.map Response.withoutCookies
    peer := exchange.peer.withoutCookies }

end Erasure

section Headers

variable {name other : String} {headers : List Header}

theorem valuesOf_without (h : sameName name other = false) :
    valuesOf name (without other headers) = valuesOf name headers := by
  rw [valuesOf, valuesOf, without, List.filter_filter]
  refine congrArg _ (List.filter_congr fun header _ => ?_)
  by_cases hname : sameName header.name name = true
  · have hlower : lowerName header.name = lowerName name := eq_of_beq hname
    have hother : sameName header.name other = false := by
      rw [sameName, hlower]
      exact h
    rw [hname, hother]
    rfl
  · rw [Bool.eq_false_iff.mpr hname, Bool.false_and]

theorem valuesOf_without_self (name : String) (headers : List Header) :
    valuesOf name (without name headers) = [] := by
  rw [valuesOf, without, List.filter_filter, List.map_eq_nil_iff, List.filter_eq_nil_iff]
  intro header _
  rw [Bool.and_not_self]
  exact Bool.false_ne_true

theorem without_map_received (name : String) (headers : List Header) :
    without name (headers.map Header.received) = (without name headers).map Header.received :=
  List.filter_map

end Headers

section Replies

variable (response : Response) (request : Request) (url : Url)

theorem valueOf_withoutCookies {name : String} (h : sameName name "set-cookie" = false) :
    valueOf? name response.withoutCookies.headers = valueOf? name response.headers :=
  congrArg List.head? (valuesOf_without h)

theorem received_withoutCookies :
    response.withoutCookies.received = response.received.withoutCookies := by
  rw [Response.withoutCookies, Response.withoutCookies, Response.received, Response.received,
    without_map_received]

theorem text_withoutCookies [Text.Charset.Decoders] :
    response.withoutCookies.text = response.text := by
  have hcharset : MediaType.charsetOf response.withoutCookies.headers =
      MediaType.charsetOf response.headers := by
    rw [MediaType.charsetOf, MediaType.charsetOf, valueOf_withoutCookies response (by decide)]
  rw [Response.text, hcharset]
  rfl

theorem readText_withoutCookies [Text.Charset.Decoders] :
    response.withoutCookies.readText = response.readText := by
  rw [Response.readText, Response.readText, text_withoutCookies]
  rfl

theorem redirect_withoutCookies :
    request.redirect? response.withoutCookies = request.redirect? response := by
  have hlocation : location? request.url response.withoutCookies =
      location? request.url response := by
    rw [location?, location?, valueOf_withoutCookies response (by decide)]
  rw [Request.redirect?, Request.redirect?, hlocation]
  rfl

end Replies

section Exchanges

theorem next_withoutCookies (peer : Peer) :
    peer.withoutCookies.next = (peer.next.1.withoutCookies, peer.next.2.withoutCookies) := by
  obtain ⟨answers, reachable⟩ := peer
  cases answers <;> rfl

-- By induction on the redirects that may still be followed: a reply redirects as it does without
-- its cookies, and they are gone with it.
theorem follow_withoutCookies (hops : Nat) (request : Request) (peer : Peer) :
    follow hops request peer.withoutCookies =
      (follow hops request peer).withoutCookies := by
  have hreachable (peer : Peer) : peer.withoutCookies.reachable = peer.reachable := rfl
  fun_induction follow hops request peer with
  | case1 hops request peer hpeer =>
    rw [follow.eq_def, hreachable, if_pos hpeer]
    rfl
  | case2 hops request peer hpeer left hnext =>
    rw [follow.eq_def, hreachable, if_neg hpeer, next_withoutCookies, hnext]
    rfl
  | case3 hops request peer hpeer response final left hnext hfinal =>
    rw [follow.eq_def, hreachable, if_neg hpeer, next_withoutCookies, hnext]
    simp only [Answer.withoutCookies, received_withoutCookies, redirect_withoutCookies, hfinal]
    rfl
  | case4 request peer hpeer response final left hnext onward hredirect =>
    rw [follow.eq_def, hreachable, if_neg hpeer, next_withoutCookies, hnext]
    simp only [Answer.withoutCookies, received_withoutCookies, redirect_withoutCookies, hredirect]
    rfl
  | case5 request peer hpeer response final left hnext onward hredirect hops hweb =>
    rw [follow.eq_def, hreachable, if_neg hpeer, next_withoutCookies, hnext]
    simp only [Answer.withoutCookies, received_withoutCookies, redirect_withoutCookies, hredirect,
      if_pos hweb]
    rfl
  | case6 request peer hpeer response final left hnext onward hredirect hops hweb rest ih =>
    rw [follow.eq_def, hreachable, if_neg hpeer, next_withoutCookies, hnext]
    simp only [Answer.withoutCookies, received_withoutCookies, redirect_withoutCookies, hredirect,
      if_neg hweb, ih]
    rfl

theorem exchange_withoutCookies (request : Request) (peer : Peer) :
    request.exchange peer.withoutCookies = (request.exchange peer).withoutCookies := by
  rw [Request.exchange, Request.exchange]
  cases request.prepared with
  | error fault => rfl
  | ok ready => exact follow_withoutCookies maxRedirects ready peer

end Exchanges

end ChallengeLogin.Http
