import ChallengeLogin.Challenge
import ChallengeLogin.Proofs.Http.Sending
import ChallengeLogin.Proofs.Url.Site

namespace ChallengeLogin.Challenge

open ChallengeLogin.Http (Askable Ends Peer Response bare isSuccess isWeb)

-- A reply that carries page parameters
structure Carries (response : Response) (parameters : PageParameters) : Prop where
  status : isSuccess response.status = true
  complete : response.complete = true
  page : PageParameters.ofBytes response.body = .ok parameters

-- The endings from which no parameters are to be had
inductive Fails : Except Http.Fault Response → Prop
  | unanswered {fault : Http.Fault} : Fails (.error fault)
  | refused {response : Response} (hstatus : isSuccess response.status = false) :
      Fails (.ok response)
  | unreadable {response : Response} (hbody : response.complete = false) : Fails (.ok response)
  | unaccepted {response : Response} {fault : Json.Fault}
      (hpage : PageParameters.ofBytes response.body = .error fault) : Fails (.ok response)

section Replies

variable {response : Response} {parameters : PageParameters}
  {ending : Except Http.Fault Response}

theorem Fails.not_carries (h : Fails (.ok response)) : ¬Carries response parameters := by
  rintro ⟨hstatus', hbody', hpage'⟩
  cases h with
  | refused hstatus => exact Bool.false_ne_true (hstatus.symm.trans hstatus')
  | unreadable hbody => exact Bool.false_ne_true (hbody.symm.trans hbody')
  | unaccepted hpage => cases hpage.symm.trans hpage'

theorem fails_or_carries (ending : Except Http.Fault Response) :
    Fails ending ∨ ∃ response parameters, ending = .ok response ∧ Carries response parameters := by
  cases ending with
  | error fault => exact .inl .unanswered
  | ok response =>
    by_cases hstatus : isSuccess response.status = true
    · by_cases hbody : response.complete = true
      · cases hpage : PageParameters.ofBytes response.body with
        | error fault => exact .inl (.unaccepted hpage)
        | ok parameters => exact .inr ⟨response, parameters, rfl, hstatus, hbody, hpage⟩
      · exact .inl (.unreadable (Bool.eq_false_iff.mpr hbody))
    · exact .inl (.refused (Bool.eq_false_iff.mpr hstatus))

variable [Text.Charset.Decoders]

theorem ofResponse_of_carries (h : Carries response parameters) :
    ofResponse response = .ok parameters := by
  simp only [ofResponse, h.status, h.complete, h.page, Bool.not_true, Bool.false_eq_true, if_false]

theorem carries_of_ofResponse (h : ofResponse response = .ok parameters) :
    Carries response parameters := by
  unfold ofResponse at h
  split at h
  · cases h
  · rename_i hstatus
    split at h
    · cases h
    · rename_i hbody
      split at h
      · cases h
      · rename_i read hpage
        cases h
        exact ⟨by simpa using hstatus, by simpa using hbody, hpage⟩

end Replies

section Asking

variable {url : Url} {peer : Peer}

-- Redirects keep the method of a request for a page, and so the page is never posted to.
theorem method_of_mem_exchange {r : Http.Request} (h : r ∈ ((request url).exchange peer).requests) :
    r.method = .get := by
  rcases Http.repeats_or_asks_of_mem h with ⟨hmethod, -⟩ | ⟨hmethod, -⟩ <;> exact hmethod

-- The first of the requests asks for a page
def AsksFirst (url : Url) (requests : List Http.Request) : Prop :=
  ∃ first rest, requests = first :: rest ∧ first.method = .get ∧ first.url = bare url

theorem exchange_asks_first (hhost : url.hasHost = true) (hweb : isWeb url = true)
    (hask : Askable url) (hpeer : peer.reachable = true) :
    AsksFirst url ((request url).exchange peer).requests := by
  obtain ⟨first, rest, hrequests, hmethod, hbare, -⟩ :=
    Http.first_of_askable (request url) hhost Http.sendable_json hweb hask hpeer
  exact ⟨first, rest, hrequests, hmethod, hbare⟩

end Asking

section Fetching

variable [Text.Charset.Decoders] {base url : Url} {peer : Peer} {parameters : PageParameters}
  {ending : Except Http.Fault Response}

theorem fetch_of_join (hurl : base.join loginPath = .ok url) (peer : Peer) :
    (fetch base peer).requests = ((request url).exchange peer).requests ∧
      (fetch base peer).peer = ((request url).exchange peer).peer ∧
      (fetch base peer).result =
        (((request url).exchange peer).ending.mapError .network).bind ofResponse := by
  rw [fetch, hurl]
  simp only
  cases ((request url).exchange peer).ending with
  | error fault => exact ⟨rfl, rfl, rfl⟩
  | ok response =>
    simp only [Except.mapError, Except.bind]
    cases ofResponse response <;> exact ⟨rfl, rfl, rfl⟩

theorem fetch_of_carries {response : Response} (hurl : base.join loginPath = .ok url)
    (hends : Ends (request url) peer (.ok response)) (hcarries : Carries response parameters) :
    (fetch base peer).result = .ok parameters := by
  rw [(fetch_of_join hurl peer).2.2, hends.eq_ending]
  exact ofResponse_of_carries hcarries

theorem fetch_of_fails (hurl : base.join loginPath = .ok url)
    (hends : Ends (request url) peer ending) (hfails : Fails ending) :
    ∃ fault, (fetch base peer).result = .error fault := by
  rw [(fetch_of_join hurl peer).2.2, hends.eq_ending]
  cases ending with
  | error fault => exact ⟨.network fault, rfl⟩
  | ok response =>
    change ∃ fault, ofResponse response = .error fault
    cases hread : ofResponse response with
    | error fault => exact ⟨fault, rfl⟩
    | ok parameters => exact absurd (carries_of_ofResponse hread) hfails.not_carries

-- What is told where the page of a site yields nothing
theorem fault_of_fetch {fault : Fault} (hurl : base.join loginPath = .ok url)
    (h : (fetch base peer).result = .error fault) :
    (∃ cause, Ends (request url) peer (.error cause) ∧ fault = .network cause) ∨
      fault = .network .badBody ∨ ∃ status body, fault = .refused status body := by
  rw [(fetch_of_join hurl peer).2.2] at h
  have hends := Http.ends_iff.mpr (rfl : ((request url).exchange peer).ending = _)
  cases hending : ((request url).exchange peer).ending with
  | error cause =>
    rw [hending] at h hends
    cases h
    exact .inl ⟨cause, hends, rfl⟩
  | ok response =>
    rw [hending] at h
    have hread : ofResponse response = .error fault := h
    unfold ofResponse at hread
    split at hread
    · cases hread
      exact .inr (.inr ⟨_, _, rfl⟩)
    · split at hread
      · cases hread
        exact .inr (.inl rfl)
      · split at hread <;> cases hread
        exact .inr (.inl rfl)

end Fetching

end ChallengeLogin.Challenge
