import ChallengeLogin.Proofs.Http.Body

namespace ChallengeLogin.Http

open ChallengeLogin.Text

section Preparing

-- The URL that a request asks for, once name and password have gone into a header
def askedUrl (url : Url) : Url :=
  if (credentials? url).isSome then { url with username := "", password := none } else url

-- A URL that a request can be made for
def Askable (url : Url) : Prop :=
  Target.isTarget (askedUrl url).text.toList = true

instance : DecidablePred Askable :=
  fun url => inferInstanceAs (Decidable (Target.isTarget (askedUrl url).text.toList = true))

-- The URL as a peer sees it
def bare (url : Url) : Url :=
  { url with username := "", password := none, fragment := none }

variable {request ready : Request}

theorem url_of_authorized (request : Request) : request.authorized.url = askedUrl request.url := by
  unfold Request.authorized askedUrl
  cases credentials? request.url <;> rfl

theorem method_of_authorized (request : Request) : request.authorized.method = request.method := by
  unfold Request.authorized
  split <;> rfl

theorem isWeb_askedUrl (url : Url) : isWeb (askedUrl url) = isWeb url := by
  unfold askedUrl
  split <;> rfl

theorem bare_askedUrl (url : Url) : bare (askedUrl url) = bare url := by
  unfold askedUrl
  split <;> rfl

-- What preparing a request keeps, and what it asks of the URL
theorem of_prepared (h : request.prepared = .ok ready) :
    ready.method = request.method ∧ ready.url = askedUrl request.url ∧ isWeb request.url = true ∧
      Askable request.url := by
  unfold Request.prepared at h
  simp only [url_of_authorized, isWeb_askedUrl] at h
  split at h
  · cases h
  split at h
  · cases h
  split at h
  · cases h
  · rename_i hready
    cases h
    simp only [Bool.or_eq_true, Bool.not_eq_true', not_or, Bool.not_eq_false] at hready
    exact ⟨method_of_authorized request, rfl, hready⟩

-- Only the URL may keep a request for a site from being sent.
theorem prepared_of_askable (request : Request) (hhost : request.url.hasHost = true)
    (hheaders : request.headers.all (fun h => isSendableValue h.value) = true)
    (hweb : isWeb request.url = true) (h : Askable request.url) :
    ∃ ready, request.prepared = .ok ready := by
  unfold Request.prepared
  rw [Askable] at h
  simp only [hhost, hheaders, url_of_authorized, isWeb_askedUrl, hweb, h, Bool.not_true,
    Bool.or_self, Bool.false_eq_true, if_false]
  exact ⟨_, rfl⟩

theorem prepared_of_not_askable (request : Request) (hhost : request.url.hasHost = true)
    (hheaders : request.headers.all (fun h => isSendableValue h.value) = true)
    (h : ¬Askable request.url) : request.prepared = .error (.badUrl (askedUrl request.url)) := by
  unfold Request.prepared
  rw [Askable, Bool.not_eq_true] at h
  simp only [hhost, hheaders, url_of_authorized, h, Bool.not_true, Bool.not_false, Bool.or_true,
    Bool.false_eq_true, if_true, if_false]

theorem prepared_of_unsendable (request : Request) (hhost : request.url.hasHost = true)
    (hheaders : request.headers.all (fun h => isSendableValue h.value) = false) :
    request.prepared = .error .badHeader := by
  unfold Request.prepared
  simp only [hhost, hheaders, Bool.not_true, Bool.not_false, Bool.false_eq_true, if_true, if_false]

-- Behind the headers that a request has, at most two are added.
theorem headers_of_prepared (h : request.prepared = .ok ready) :
    ∃ added, (added = [] ∨ ∃ value, added = [⟨"authorization", value⟩]) ∧
      ready.headers = request.headers ++ added ++ [userAgent] := by
  have hauthorized : ∃ added, (added = [] ∨ ∃ value, added = [⟨"authorization", value⟩]) ∧
      request.authorized.headers = request.headers ++ added := by
    unfold Request.authorized
    split
    · exact ⟨[], .inl rfl, (List.append_nil _).symm⟩
    · exact ⟨_, .inr ⟨_, rfl⟩, rfl⟩
  unfold Request.prepared at h
  simp only at h
  iterate 3
    split at h
    · cases h
  cases h
  obtain ⟨added, hadded, hheaders⟩ := hauthorized
  exact ⟨added, hadded, congrArg (· ++ [userAgent]) hheaders⟩

end Preparing

section Redirecting

theorem withoutAll_sublist (names : List String) (headers : List Header) :
    (withoutAll names headers).Sublist headers := by
  induction names generalizing headers with
  | nil => exact List.Sublist.refl _
  | cons name names ih => exact List.Sublist.trans (ih _) List.filter_sublist

variable {request next last : Request} {response : Response} {answers left : List Answer}
  {hops : List Hop}

@[simp] theorem status_received (response : Response) :
    response.received.status = response.status := rfl

theorem drops_or_repeats (h : request.redirect? response = some next) :
    DropsBody response.status ∨ response.status = 307 ∨ response.status = 308 := by
  obtain ⟨again, hagain, -⟩ := Option.bind_eq_some_iff.mp h
  unfold Request.redirected? at hagain
  split at hagain
  · rename_i hdrops
    exact .inl hdrops
  · split at hagain
    · rename_i hrepeats
      exact .inr hrepeats
    · cases hagain

-- One redirect repeats a request, or asks again without a body.
theorem repeats_or_asks (h : request.redirect? response = some next) :
    (next.method = request.method ∧ next.body = request.body) ∨
      (next.method = .get ∧ next.body = []) := by
  obtain ⟨again, hagain, hnext⟩ := Option.bind_eq_some_iff.mp h
  obtain ⟨url, -, hmoved⟩ := Option.bind_eq_some_iff.mp hnext
  cases hmoved
  unfold Request.redirected? at hagain
  split at hagain
  · cases hagain
    exact .inr ⟨rfl, rfl⟩
  · split at hagain
    · cases hagain
      exact .inl ⟨rfl, rfl⟩
    · cases hagain

-- All requests along redirects, the one that they start from among them
def sent (hops : List Hop) (last : Request) : List Request :=
  hops.map (·.request) ++ [last]

theorem sent_cons (hop : Hop) (hops : List Hop) (last : Request) :
    sent (hop :: hops) last = hop.request :: sent hops last := rfl

theorem Follows.sent_eq_cons (h : Follows request answers hops last left) :
    ∃ rest, sent hops last = request :: rest := by
  cases h with
  | here => exact ⟨[], rfl⟩
  | onward => exact ⟨_, rfl⟩

-- By induction on the redirects: what one of them repeats, or asks without a body, the next one
-- repeats or asks without a body.
theorem Follows.repeats_or_asks (h : Follows request answers hops last left) :
    ∀ r ∈ sent hops last, (r.method = request.method ∧ r.body = request.body) ∨
      (r.method = .get ∧ r.body = []) := by
  induction h with
  | here request answers =>
    intro r hmem
    rw [List.mem_singleton.mp hmem]
    exact .inl ⟨rfl, rfl⟩
  | onward hredirect hweb hrest ih =>
    intro r hmem
    rcases List.mem_cons.mp hmem with rfl | hmem
    · exact .inl ⟨rfl, rfl⟩
    rcases ih r hmem with ⟨hmethod, hbody⟩ | hasks
    · rw [hmethod, hbody]
      exact Http.repeats_or_asks hredirect
    · exact .inr hasks

-- Redirects take headers away and add none.
theorem headers_of_redirect (h : request.redirect? response = some next) :
    next.headers.Sublist request.headers := by
  obtain ⟨again, hagain, hnext⟩ := Option.bind_eq_some_iff.mp h
  obtain ⟨url, -, hmoved⟩ := Option.bind_eq_some_iff.mp hnext
  cases hmoved
  have hfewer : again.headers.Sublist request.headers := by
    unfold Request.redirected? at hagain
    split at hagain
    · cases hagain
      exact withoutAll_sublist contentHeaders request.headers
    · split at hagain
      · cases hagain
        exact List.Sublist.refl _
      · cases hagain
  unfold Request.moved
  split
  · exact hfewer
  · exact List.Sublist.trans (withoutAll_sublist credentialHeaders again.headers) hfewer

theorem Follows.headers_sublist (h : Follows request answers hops last left) :
    ∀ r ∈ sent hops last, r.headers.Sublist request.headers := by
  induction h with
  | here request answers =>
    intro r hmem
    obtain rfl := List.mem_singleton.mp hmem
    exact List.Sublist.refl _
  | onward hredirect hweb hrest ih =>
    intro r hmem
    rcases List.mem_cons.mp hmem with rfl | hmem
    · exact List.Sublist.refl _
    · exact List.Sublist.trans (ih r hmem) (headers_of_redirect hredirect)

end Redirecting

section Exchange

variable {request ready : Request} {peer : Peer}

theorem requests_of_prepared (hready : request.prepared = .ok ready)
    (hpeer : peer.reachable = true) :
    ∃ hops last left, Follows ready peer.answers hops last left ∧
      (request.exchange peer).requests = (sent hops last).map Request.received := by
  obtain ⟨hops, last, left, ending, hfollows, hfew, hstops⟩ :=
    exists_stops maxRedirects ready peer.answers
  refine ⟨hops, last, left, hfollows, ?_⟩
  rw [(exchange_of_stops hready hpeer hfollows hfew hstops).2, sent, List.map_append, List.map_map]
  rfl

theorem first_of_prepared (hready : request.prepared = .ok ready) (hpeer : peer.reachable = true) :
    ∃ rest, (request.exchange peer).requests = ready.received :: rest := by
  obtain ⟨hops, last, left, hfollows, hrequests⟩ := requests_of_prepared hready hpeer
  obtain ⟨rest, hsent⟩ := hfollows.sent_eq_cons
  rw [hrequests, hsent]
  exact ⟨_, rfl⟩

theorem sendable_json :
    ([⟨"content-type", Utf8.bytesOf "application/json"⟩] : List Header).all
      (fun h => isSendableValue h.value) = true := by
  decide

-- The first request, as the peer receives it
theorem first_of_askable (request : Request) (hhost : request.url.hasHost = true)
    (hheaders : request.headers.all (fun h => isSendableValue h.value) = true)
    (hweb : isWeb request.url = true) (hask : Askable request.url)
    (hpeer : peer.reachable = true) :
    ∃ first rest, (request.exchange peer).requests = first :: rest ∧
      first.method = request.method ∧ first.url = bare request.url ∧
      first.body = request.body := by
  obtain ⟨ready, hready⟩ := prepared_of_askable request hhost hheaders hweb hask
  obtain ⟨rest, hrequests⟩ := first_of_prepared hready hpeer
  obtain ⟨hmethod, hurl, -, -⟩ := of_prepared hready
  have hbare := (congrArg bare hurl).trans (bare_askedUrl request.url)
  have hbody := body_of_prepared hready
  exact ⟨ready.received, rest, hrequests, hmethod, hbare, hbody⟩

-- A first reply that redirects nowhere is the final one.
theorem ends_of_first {response : Response} {final : response.isFinal} {answers : List Answer}
    (hhost : request.url.hasHost = true)
    (hheaders : request.headers.all (fun h => isSendableValue h.value) = true)
    (hweb : isWeb request.url = true) (hask : Askable request.url)
    (hfinal : ¬(DropsBody response.status ∨ response.status = 307 ∨ response.status = 308)) :
    Ends request ⟨.reply response final :: answers, true⟩ (.ok response.received) := by
  obtain ⟨ready, hready⟩ := prepared_of_askable request hhost hheaders hweb hask
  have hstays : ready.redirect? response.received = none := by
    rw [← status_received] at hfinal
    exact Option.eq_none_iff_forall_ne_some.mpr fun _ hnext => hfinal (drops_or_repeats hnext)
  exact .stopped hready rfl (.here _ _) (Nat.zero_le _) (.replied hstays)

theorem askable_of_ends {response : Response} (h : Ends request peer (.ok response)) :
    Askable request.url := by
  cases h with
  | stopped hready => exact (of_prepared hready).2.2.2

-- An exchange sends nothing, or all that redirects lead to.
theorem requests_cases (request : Request) (peer : Peer) :
    (request.exchange peer).requests = [] ∨
      ∃ ready hops last left, request.prepared = .ok ready ∧
        Follows ready peer.answers hops last left ∧
        (request.exchange peer).requests = (sent hops last).map Request.received := by
  cases hready : request.prepared with
  | error fault =>
    rw [Request.exchange, hready]
    exact .inl rfl
  | ok ready =>
    by_cases hpeer : peer.reachable = true
    · obtain ⟨hops, last, left, hfollows, hrequests⟩ := requests_of_prepared hready hpeer
      exact .inr ⟨ready, hops, last, left, rfl, hfollows, hrequests⟩
    · rw [Request.exchange, hready]
      simp only
      rw [follow.eq_def, Bool.eq_false_iff.mpr hpeer]
      exact .inl rfl

theorem repeats_or_asks_of_mem {r : Request} (h : r ∈ (request.exchange peer).requests) :
    (r.method = request.method ∧ r.body = request.body) ∨ (r.method = .get ∧ r.body = []) := by
  rcases requests_cases request peer with hnone | ⟨ready, hops, last, left, hready, hfollows, hsome⟩
  · rw [hnone] at h
    exact absurd h List.not_mem_nil
  · rw [hsome] at h
    obtain ⟨earlier, hmem, rfl⟩ := List.mem_map.mp h
    have hearlier := hfollows.repeats_or_asks earlier hmem
    rwa [(of_prepared hready).1, body_of_prepared hready] at hearlier

-- Of the headers that a program sets, a peer adds none to the requests of an exchange.
theorem header_names_of_mem {r : Request} (h : r ∈ (request.exchange peer).requests) :
    (r.headers.map (·.name)).Sublist
      (request.headers.map (·.name) ++ ["authorization", "user-agent"]) := by
  rcases requests_cases request peer with hnone | ⟨ready, hops, last, left, hready, hfollows, hsome⟩
  · rw [hnone] at h
    exact absurd h List.not_mem_nil
  rw [hsome] at h
  obtain ⟨earlier, hearlier, rfl⟩ := List.mem_map.mp h
  have hnames : earlier.received.headers.map (·.name) = earlier.headers.map (·.name) :=
    List.map_map
  obtain ⟨added, hadded, hheaders⟩ := headers_of_prepared hready
  have hfirst : (ready.headers.map (·.name)).Sublist
      (request.headers.map (·.name) ++ ["authorization", "user-agent"]) := by
    rw [hheaders, List.append_assoc, List.map_append]
    refine (List.Sublist.refl _).append ?_
    rcases hadded with rfl | ⟨value, rfl⟩
    · exact List.sublist_cons_self _ _
    · exact List.Sublist.refl _
  rw [hnames]
  exact ((hfollows.headers_sublist earlier hearlier).map _).trans hfirst

-- By induction on the redirects: each request takes one answer from the peer, if it is received.
theorem follow_keeps (kept : Peer → Prop)
    (hnext : ∀ peer answer left, peer.next = (answer, left) → kept peer → kept left)
    (room : Nat) (request : Request) (peer : Peer) (hpeer : kept peer) :
    kept (follow room request peer).peer := by
  fun_induction follow room request peer with
  | case1 => exact hpeer
  | case2 _ _ _ _ _ htaken => exact hnext _ _ _ htaken hpeer
  | case3 _ _ _ _ _ _ _ htaken => exact hnext _ _ _ htaken hpeer
  | case4 _ _ _ _ _ _ htaken => exact hnext _ _ _ htaken hpeer
  | case5 _ _ _ _ _ _ htaken => exact hnext _ _ _ htaken hpeer
  | case6 _ _ _ _ _ _ htaken _ _ _ _ _ ih => exact ih (hnext _ _ _ htaken hpeer)

-- What a peer keeps from one answer to the next, it keeps through an exchange.
theorem exchange_keeps (kept : Peer → Prop)
    (hnext : ∀ peer answer left, peer.next = (answer, left) → kept peer → kept left)
    (request : Request) (peer : Peer) (hpeer : kept peer) : kept (request.exchange peer).peer := by
  rw [Request.exchange]
  split
  · exact hpeer
  · exact follow_keeps kept hnext _ _ _ hpeer

theorem of_next {left : Peer} {answer : Answer} (h : peer.next = (answer, left)) :
    left.reachable = peer.reachable ∧ left.answers <:+ peer.answers := by
  unfold Peer.next at h
  split at h
  · cases h
    exact ⟨rfl, List.suffix_refl _⟩
  · rename_i hanswers
    cases h
    exact ⟨rfl, hanswers ▸ List.suffix_cons _ _⟩

-- A peer that can be reached stays so.
theorem reachable_of_exchange (request : Request) (peer : Peer) :
    (request.exchange peer).peer.reachable = peer.reachable :=
  exchange_keeps (fun left => left.reachable = peer.reachable)
    (fun _ _ _ htaken hkept => (of_next htaken).1.trans hkept) request peer rfl

-- An exchange leaves the answers behind those that it has used.
theorem suffix_of_exchange (request : Request) (peer : Peer) :
    (request.exchange peer).peer.answers <:+ peer.answers :=
  exchange_keeps (fun left => left.answers <:+ peer.answers)
    (fun _ _ _ htaken hkept => (of_next htaken).2.trans hkept) request peer
    (List.suffix_refl _)

end Exchange

section Repetition

variable {request : Request} {peer : Peer}

-- The first reply redirects to a second request that is made like the first
def Repeated (peer : Peer) (requests : List Request) : Prop :=
  ∃ response final answers, peer.answers = .reply response final :: answers ∧
    (response.status = 307 ∨ response.status = 308) ∧ 2 ≤ requests.length

theorem not_dropsBody_of_repeats {status : Nat} (h : status = 307 ∨ status = 308) :
    ¬DropsBody status := by
  rcases h with rfl | rfl <;> decide

theorem bodies_of_repeated (h : Repeated peer (request.exchange peer).requests) :
    ∃ first second rest, (request.exchange peer).requests = first :: second :: rest ∧
      first.body = request.body ∧ second.body = request.body := by
  obtain ⟨response, _, answers, hanswers, hrepeats, hmany⟩ := h
  rcases requests_cases request peer with hnone | ⟨ready, hops, last, left, hready, hfollows, hsome⟩
  · rw [hnone, List.length_nil] at hmany
    omega
  rw [hsome] at hmany ⊢
  rw [hanswers] at hfollows
  have hbody := body_of_prepared hready
  cases hfollows with
  | here =>
    rw [sent, List.map_nil, List.nil_append, List.map_singleton, List.length_singleton] at hmany
    omega
  | @onward _ next _ _ _ _ _ hops hredirect hweb hrest =>
    obtain ⟨rest, hsent⟩ := hrest.sent_eq_cons
    have hnext := body_of_redirect hredirect
    rw [status_received, if_neg (not_dropsBody_of_repeats hrepeats), hbody] at hnext
    rw [sent_cons, hsent]
    exact ⟨_, _, _, rfl, hbody, hnext⟩

-- Where the first request is not repeated, no request but the first has a body.
theorem bodies_of_not_repeated (h : ¬Repeated peer (request.exchange peer).requests) :
    (request.exchange peer).requests = [] ∨
      ∃ ready rest, request.prepared = .ok ready ∧
        (request.exchange peer).requests = ready.received :: rest ∧ ∀ r ∈ rest, r.body = [] := by
  rcases requests_cases request peer with hnone | ⟨ready, hops, last, left, hready, hfollows, hsome⟩
  · exact .inl hnone
  refine .inr ⟨ready, ?_⟩
  generalize hanswers : peer.answers = answers at hfollows
  cases hfollows with
  | here => exact ⟨[], hready, hsome, fun r hmem => absurd hmem List.not_mem_nil⟩
  | @onward _ next _ response _ answers _ hops hredirect hweb hrest =>
    refine ⟨(sent hops last).map Request.received, hready, hsome, ?_⟩
    have hdrops : DropsBody response.status := by
      rcases drops_or_repeats hredirect with hdrops | hrepeats
      · exact hdrops
      · refine absurd ⟨response, _, answers, hanswers, hrepeats, ?_⟩ h
        rw [hsome, sent_cons]
        simp [sent]
    have hnext := body_of_redirect hredirect
    rw [status_received, if_pos hdrops] at hnext
    obtain ⟨hhops, hlast⟩ := hrest.body_eq_nil hnext
    intro r hmem
    obtain ⟨earlier, hearlier, rfl⟩ := List.mem_map.mp hmem
    rcases List.mem_append.mp hearlier with hhop | hend
    · obtain ⟨hop, hfollowed, rfl⟩ := List.mem_map.mp hhop
      exact hhops hop hfollowed
    · rw [List.mem_singleton.mp hend]
      exact hlast

end Repetition

end ChallengeLogin.Http
