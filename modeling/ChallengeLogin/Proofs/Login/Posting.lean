import ChallengeLogin.Action
import ChallengeLogin.Proofs.Attempt.Transmission
import ChallengeLogin.Proofs.Challenge

namespace ChallengeLogin.Login

open ChallengeLogin.Attempt (PostsFirst epoch)
open ChallengeLogin.Challenge (AsksFirst Carries Fails)
open ChallengeLogin.Http (Answer Askable Ends Peer Response isWeb)

-- The nonce that a login has, and the peer as it is left once the nonce is there
inductive Obtains (login : Login) (peer : Peer) : String → Peer → Prop
  | given {nonce : String} (hgiven : login.nonce = some nonce) : Obtains login peer nonce peer
  | fetched {page : Url} {response : Response} {parameters : PageParameters}
      (hmissing : login.nonce = none) (hpage : login.url.join loginPath = .ok page)
      (hends : Ends (Challenge.request page) peer (.ok response))
      (hcarries : Carries response parameters) :
      Obtains login peer parameters.nonce ((Challenge.request page).exchange peer).peer

-- The requests of a login that ask for a challenge
def fetching [Text.Charset.Decoders] (login : Login) (peer : Peer) : List Http.Request :=
  match login.nonce with
  | some _ => []
  | none => (Challenge.fetch login.url peer).requests

-- A report of a login that has come to nothing
structure Failed (report : Report) : Prop where
  patches : report.patches = []
  result : ∃ fault, report.result = .error fault

section Obtaining

variable {login : Login} {peer left : Peer} {nonce : String} {page : Url}

theorem Obtains.unique {other : String} {rest : Peer} (h : login.Obtains peer nonce left)
    (h' : login.Obtains peer other rest) : other = nonce ∧ rest = left := by
  cases h with
  | given hgiven =>
    cases h' with
    | given hgiven' =>
      cases hgiven.symm.trans hgiven'
      exact ⟨rfl, rfl⟩
    | fetched hmissing => cases hgiven.symm.trans hmissing
  | fetched hmissing hpage hends hcarries =>
    cases h' with
    | given hgiven => cases hgiven.symm.trans hmissing
    | fetched _ hpage' hends' hcarries' =>
      cases hpage.symm.trans hpage'
      cases hends.eq_ending.symm.trans hends'.eq_ending
      cases hcarries.page.symm.trans hcarries'.page
      exact ⟨rfl, rfl⟩

theorem Obtains.not_fails {ending : Except Http.Fault Response} (h : login.Obtains peer nonce left)
    (hmissing : login.nonce = none) (hpage : login.url.join loginPath = .ok page)
    (hends : Ends (Challenge.request page) peer ending) : ¬Fails ending := by
  intro hfails
  cases h with
  | given hgiven => cases hgiven.symm.trans hmissing
  | fetched _ hpage' hends' hcarries =>
    cases hpage.symm.trans hpage'
    cases hends.eq_ending.symm.trans hends'.eq_ending
    exact hfails.not_carries hcarries

theorem obtains_or_fails (login : Login) (peer : Peer)
    (hpage : login.url.join loginPath = .ok page) :
    (∃ nonce left, login.Obtains peer nonce left) ∨
      login.nonce = none ∧ ∃ ending, Ends (Challenge.request page) peer ending ∧ Fails ending := by
  cases hnonce : login.nonce with
  | some nonce => exact .inl ⟨nonce, peer, .given hnonce⟩
  | none =>
    have hends := Http.ends_iff.mpr (rfl : ((Challenge.request page).exchange peer).ending = _)
    rcases Challenge.fails_or_carries ((Challenge.request page).exchange peer).ending with
      hfails | ⟨response, parameters, hending, hcarries⟩
    · exact .inr ⟨rfl, _, hends, hfails⟩
    · rw [hending] at hends
      exact .inl ⟨_, _, .fetched hnonce hpage hends hcarries⟩

theorem reachable_of_obtains (h : login.Obtains peer nonce left) :
    left.reachable = peer.reachable := by
  cases h with
  | given => rfl
  | fetched => exact Http.reachable_of_exchange _ _

end Obtaining

section Stages

variable [Http.Client] {login : Login} {peer left : Peer} {nonce : String} {page : Url}

theorem run_of_obtains (h : login.Obtains peer nonce left) (now : Moment) :
    (login.run now peer).result = (login.submit now (.ofNonce nonce) left).result ∧
      (login.run now peer).patches = (login.submit now (.ofNonce nonce) left).patches ∧
      (login.run now peer).requests =
        login.fetching peer ++ (login.submit now (.ofNonce nonce) left).requests := by
  cases h with
  | given hgiven => simp only [run, fetching, hgiven, List.nil_append, and_self]
  | fetched hmissing hpage hends hcarries =>
    have hfetched := Challenge.fetch_of_carries hpage hends hcarries
    have hleft := (Challenge.fetch_of_join hpage peer).2.1
    simp only [run, fetching, hmissing, hfetched, hleft, PageParameters.form, and_self]

theorem run_of_fails (hmissing : login.nonce = none) (hpage : login.url.join loginPath = .ok page)
    {ending : Except Http.Fault Response} (hends : Ends (Challenge.request page) peer ending)
    (hfails : Fails ending) (now : Moment) :
    Failed (login.run now peer) ∧ (login.run now peer).requests = login.fetching peer := by
  obtain ⟨fault, hfault⟩ := Challenge.fetch_of_fails hpage hends hfails
  rw [run, fetching, hmissing]
  simp only [hfault]
  exact ⟨⟨rfl, _, rfl⟩, trivial⟩

theorem submit_of_key {key : Key} (hkey : Key.ofText login.secretKey = .ok key) (now : Moment)
    (form : Form) (peer : Peer) :
    (login.submit now form peer).result =
        conclude (Attempt.submit login.url now (.constant key.respondent) form peer).result ∧
      (login.submit now form peer).patches =
        (Attempt.submit login.url now (.constant key.respondent) form peer).patches ∧
      (login.submit now form peer).requests =
        (Attempt.submit login.url now (.constant key.respondent) form peer).requests := by
  simp only [submit, hkey, and_self]

theorem submit_of_keyFault {fault : KeyFault} (hkey : Key.ofText login.secretKey = .error fault)
    (now : Moment) (form : Form) (peer : Peer) :
    Failed (login.submit now form peer) ∧ (login.submit now form peer).requests = [] := by
  rw [submit, hkey]
  exact ⟨⟨rfl, _, rfl⟩, rfl⟩

end Stages

section Course

variable {login : Login} {peer left : Peer} {nonce : String} {page : Url} {key : Key}

-- The requests post an event that tells a nonce, the first of them and whichever post at all
def Submits (page : Url) (nonce : String) (requests : List Http.Request) : Prop :=
  ∃ event : SignedEvent, event.content = nonce ∧ PostsFirst page event requests ∧
    ∀ r ∈ requests, r.method = .post → r.body = Text.Utf8.bytesOf event.toJson

-- What a login does, request by request: the page is asked for a nonce that is not given, and only
-- a nonce and a valid key lead to anything being submitted.
structure Course [Text.Charset.Decoders] (login : Login) (peer : Peer) (page : Url)
    (submitted : List Http.Request) (report : Report) : Prop where
  requests : report.requests = login.fetching peer ++ submitted
  fetching_get : ∀ r ∈ login.fetching peer, r.method = .get
  fetching_given : ∀ nonce, login.nonce = some nonce → login.fetching peer = []
  fetching_missing : login.nonce = none → Askable page → AsksFirst page (login.fetching peer)
  submits_given : ∀ nonce key, login.nonce = some nonce →
    Key.ofText login.secretKey = .ok key → Askable page → Submits page nonce submitted
  submits_fetched : ∀ response parameters key, login.nonce = none →
    Ends (Challenge.request page) peer (.ok response) → Carries response parameters →
    Key.ofText login.secretKey = .ok key → Submits page parameters.nonce submitted
  fails_unfetched : ∀ ending, login.nonce = none → Ends (Challenge.request page) peer ending →
    Fails ending → Failed report ∧ submitted = []
  fails_unkeyed : ∀ fault, Key.ofText login.secretKey = .error fault →
    Failed report ∧ submitted = []
  fails_unaskable : ¬Askable page → Failed report ∧ report.requests = []

variable [Http.Client]

theorem fetching_get (hpage : login.url.join loginPath = .ok page) (peer : Peer) :
    ∀ r ∈ login.fetching peer, r.method = .get := by
  intro r hmem
  unfold fetching at hmem
  split at hmem
  · exact absurd hmem List.not_mem_nil
  · rw [(Challenge.fetch_of_join hpage peer).1] at hmem
    exact Challenge.method_of_mem_exchange hmem

theorem fetching_given (hgiven : login.nonce = some nonce) (peer : Peer) :
    login.fetching peer = [] := by
  rw [fetching, hgiven]

theorem fetching_asks_first (hmissing : login.nonce = none)
    (hpage : login.url.join loginPath = .ok page) (hhost : page.hasHost = true)
    (hweb : isWeb page = true) (hask : Askable page) (hpeer : peer.reachable = true) :
    AsksFirst page (login.fetching peer) := by
  rw [fetching, hmissing]
  simp only
  rw [(Challenge.fetch_of_join hpage peer).1]
  exact Challenge.exchange_asks_first hhost hweb hask hpeer

-- With a key, a login settles the exchange that posts what the key has signed.
theorem submit_settles (hpage : login.url.join loginPath = .ok page)
    (hkey : Key.ofText login.secretKey = .ok key) (now : Moment) (nonce : String) (left : Peer) :
    let exchange :=
      (Attempt.request page (key.sign (.ofNonce nonce now.time))).exchange left
    (login.submit now (.ofNonce nonce) left).result =
        conclude (Attempt.settle login.url now.flowId exchange.ending).result ∧
      (login.submit now (.ofNonce nonce) left).patches =
        (Attempt.settle login.url now.flowId exchange.ending).patches ∧
      (login.submit now (.ofNonce nonce) left).requests = exchange.requests := by
  have hsigned : ((Signer.constant key.respondent).ask
      (UnsignedEvent.ofNonce (Form.ofNonce nonce).nonce now.time)).1 =
      .ok (key.sign (UnsignedEvent.ofNonce nonce now.time)) := by
    rw [Form.nonce_ofNonce]
    rfl
  obtain ⟨hresult, hpatches, hrequests⟩ := submit_of_key hkey now (.ofNonce nonce) left
  obtain ⟨hsettled, hput, hsent⟩ := Attempt.submit_of_signed hpage hsigned left
  exact ⟨hresult.trans (congrArg conclude hsettled), hpatches.trans hput, hrequests.trans hsent⟩

theorem submits_of_key (hpage : login.url.join loginPath = .ok page)
    (hhost : page.hasHost = true) (hweb : isWeb page = true) (hask : Askable page)
    (hkey : Key.ofText login.secretKey = .ok key) (hleft : left.reachable = true) (now : Moment) :
    Submits page nonce (login.submit now (.ofNonce nonce) left).requests := by
  rw [(submit_settles hpage hkey now nonce left).2.2]
  refine ⟨_, rfl, Attempt.exchange_posts_first hhost hweb hask _ hleft, fun r hmem hpost => ?_⟩
  rcases Http.repeats_or_asks_of_mem hmem with ⟨-, hbody⟩ | ⟨hget, -⟩
  · exact hbody.trans (Attempt.body_request page _)
  · rw [hget] at hpost
    cases hpost

theorem failed_of_obtains (h : login.Obtains peer nonce left) {now : Moment}
    (hfailed : Failed (login.submit now (.ofNonce nonce) left)) : Failed (login.run now peer) := by
  obtain ⟨hresult, hpatches, -⟩ := run_of_obtains h now
  obtain ⟨fault, hfault⟩ := hfailed.result
  exact ⟨hpatches.trans hfailed.patches, fault, hresult.trans hfault⟩

theorem fetching_of_unaskable (hpage : login.url.join loginPath = .ok page)
    (hhost : page.hasHost = true) (hask : ¬Askable page) (peer : Peer) :
    login.fetching peer = [] := by
  have hfault := Http.prepared_of_not_askable (Challenge.request page) hhost Http.sendable_json hask
  unfold fetching
  split
  · rfl
  · rw [(Challenge.fetch_of_join hpage peer).1, Http.Request.exchange, hfault]

theorem submit_of_unaskable (hpage : login.url.join loginPath = .ok page)
    (hhost : page.hasHost = true) (hask : ¬Askable page) (now : Moment) (peer : Peer) :
    Failed (login.submit now (.ofNonce nonce) peer) ∧
      (login.submit now (.ofNonce nonce) peer).requests = [] := by
  cases hkey : Key.ofText login.secretKey with
  | error fault => exact submit_of_keyFault hkey now _ peer
  | ok key =>
    obtain ⟨hresult, hpatches, hrequests⟩ := submit_of_key hkey now (.ofNonce nonce) peer
    have habandoned : Attempt.Abandoned
        (Attempt.submit login.url now (.constant key.respondent) (.ofNonce nonce) peer) _ :=
      Attempt.submit_of_unaskable hpage hhost hask rfl
    rw [habandoned.result] at hresult
    exact ⟨⟨hpatches.trans habandoned.patches, _, hresult⟩, hrequests.trans habandoned.requests⟩

theorem course_of_obtains (h : login.Obtains peer nonce left)
    (hpage : login.url.join loginPath = .ok page) (hhost : page.hasHost = true)
    (hweb : isWeb page = true) (hpeer : peer.reachable = true) (now : Moment) :
    Course login peer page (login.submit now (.ofNonce nonce) left).requests
      (login.run now peer) where
  requests := (run_of_obtains h now).2.2
  fetching_get := fetching_get hpage peer
  fetching_given nonce hgiven := fetching_given hgiven peer
  fetching_missing hmissing hask := fetching_asks_first hmissing hpage hhost hweb hask hpeer
  submits_given other key hgiven hkey hask := by
    obtain ⟨hnonce, -⟩ := h.unique (.given hgiven)
    rw [hnonce]
    exact submits_of_key hpage hhost hweb hask hkey ((reachable_of_obtains h).trans hpeer) now
  submits_fetched response parameters key hmissing hends hcarries hkey := by
    obtain ⟨hnonce, -⟩ := h.unique (.fetched hmissing hpage hends hcarries)
    have hask := Http.askable_of_ends hends
    rw [hnonce]
    exact submits_of_key hpage hhost hweb hask hkey ((reachable_of_obtains h).trans hpeer) now
  fails_unfetched ending hmissing hends hfails :=
    absurd hfails (h.not_fails hmissing hpage hends)
  fails_unkeyed fault hkey := by
    obtain ⟨hfailed, hnone⟩ := submit_of_keyFault hkey now (.ofNonce nonce) left
    exact ⟨failed_of_obtains h hfailed, hnone⟩
  fails_unaskable hask := by
    obtain ⟨hfailed, hnone⟩ := submit_of_unaskable hpage hhost hask now left
    refine ⟨failed_of_obtains h hfailed, ?_⟩
    rw [(run_of_obtains h now).2.2, hnone, fetching_of_unaskable hpage hhost hask,
      List.append_nil]

theorem course_of_fails (hmissing : login.nonce = none) {ending : Except Http.Fault Response}
    (hpage : login.url.join loginPath = .ok page) (hhost : page.hasHost = true)
    (hweb : isWeb page = true) (hpeer : peer.reachable = true)
    (hends : Ends (Challenge.request page) peer ending) (hfails : Fails ending) (now : Moment) :
    Course login peer page [] (login.run now peer) where
  requests := by rw [(run_of_fails hmissing hpage hends hfails now).2, List.append_nil]
  fetching_get := fetching_get hpage peer
  fetching_given nonce hgiven := fetching_given hgiven peer
  fetching_missing _ hask := fetching_asks_first hmissing hpage hhost hweb hask hpeer
  submits_given nonce key hgiven := by cases hgiven.symm.trans hmissing
  submits_fetched response parameters key _ hends' hcarries := by
    cases hends.eq_ending.symm.trans hends'.eq_ending
    exact absurd hcarries hfails.not_carries
  fails_unfetched _ _ _ _ := ⟨(run_of_fails hmissing hpage hends hfails now).1, rfl⟩
  fails_unkeyed _ _ := ⟨(run_of_fails hmissing hpage hends hfails now).1, rfl⟩
  fails_unaskable hask := by
    obtain ⟨hfailed, hrequests⟩ := run_of_fails hmissing hpage hends hfails now
    exact ⟨hfailed, hrequests.trans (fetching_of_unaskable hpage hhost hask peer)⟩

-- A login on a site takes its course with every peer that can be reached.
theorem run_takes_course (login : Login) {text : String} (hparse : Url.parse text = .ok login.url)
    (hweb : isWeb login.url = true) (now : Moment) (answers : List Answer) :
    ∃ page submitted, login.url.join loginPath = .ok page ∧
      Course login ⟨answers, true⟩ page submitted (login.run now ⟨answers, true⟩) := by
  have hpage := Url.join_loginPath (Url.isSite_of_parse hparse hweb)
  have hhost := Url.hasHost_withPath ["admin", "login"] (Url.hasHost_of_parse hparse hweb)
  rcases obtains_or_fails login ⟨answers, true⟩ hpage with
    ⟨nonce, left, hobtains⟩ | ⟨hmissing, ending, hends, hfails⟩
  · exact ⟨_, _, hpage, course_of_obtains hobtains hpage hhost hweb rfl now⟩
  · exact ⟨_, _, hpage, course_of_fails hmissing hpage hhost hweb rfl hends hfails now⟩

end Course

section Sample

attribute [local instance] Http.Client.plain

-- A login that is given no nonce, with the secret three
def sampleLogin : Login :=
  { url := Attempt.loopback
    secretKey := "0000000000000000000000000000000000000000000000000000000000000003" }

theorem exists_sampleKey : ∃ key, Key.ofText sampleLogin.secretKey = .ok key := by
  have hvalid : (Key.ofText sampleLogin.secretKey).isOk = true := by decide +kernel
  cases hkey : Key.ofText sampleLogin.secretKey with
  | error fault =>
    rw [hkey] at hvalid
    cases hvalid
  | ok key => exact ⟨key, rfl⟩

-- A login page that tells a nonce
def noncePage : Response :=
  ⟨200, [], Text.Utf8.bytesOf "\x7b\"Nonce\":\"abc123\"\x7d", true⟩

-- The first of these logins posts the nonce of the page, the second the empty one that it is given;
-- the third finds no nonce, and the last has no key to sign with.
theorem run_takes_course_samples :
    Url.parse "http://[::1]:3000" = .ok sampleLogin.url ∧ isWeb sampleLogin.url = true ∧
      (∃ submitted, Submits Attempt.loopbackLogin "abc123" submitted ∧
        (sampleLogin.run epoch ⟨[.reply noncePage, .reply Attempt.page], true⟩).requests =
          sampleLogin.fetching ⟨[.reply noncePage, .reply Attempt.page], true⟩ ++ submitted) ∧
      Submits Attempt.loopbackLogin ""
        (run { sampleLogin with nonce := some "" } epoch ⟨[.reply Attempt.page], true⟩).requests ∧
      Failed (sampleLogin.run epoch ⟨[.reply Attempt.page, .reply Attempt.page], true⟩) ∧
      Failed (run { sampleLogin with secretKey := "" } epoch
        ⟨[.reply noncePage, .reply Attempt.page], true⟩) := by
  have hparse := Attempt.parse_loopback
  have hpage := Url.join_loginPath (Url.isSite_of_parse hparse rfl)
  have hask : Askable Attempt.loopbackLogin := by decide +kernel
  have hnonce : Carries noncePage.received ⟨"abc123", ""⟩ := ⟨rfl, rfl, by decide +kernel⟩
  have hfetched : Ends (Challenge.request Attempt.loopbackLogin)
      ⟨[.reply noncePage, .reply Attempt.page], true⟩ (.ok noncePage.received) :=
    Http.ends_iff.mpr (by decide +kernel)
  have hmissed : Ends (Challenge.request Attempt.loopbackLogin)
      ⟨[.reply Attempt.page, .reply Attempt.page], true⟩ (.ok Attempt.page.received) :=
    Http.ends_iff.mpr (by decide +kernel)
  have hunaccepted : PageParameters.ofBytes Attempt.page.body = .error .malformed := by
    decide +kernel
  have hunkeyed : Key.ofText "" = .error .notAKey := by rfl
  obtain ⟨key, hkey⟩ := exists_sampleKey
  obtain ⟨_, submitted, hurl, hcourse⟩ :=
    run_takes_course sampleLogin hparse rfl epoch [.reply noncePage, .reply Attempt.page]
  obtain ⟨_, given, hurl', hgiven⟩ := run_takes_course
    { sampleLogin with nonce := some "" } hparse rfl epoch [.reply Attempt.page]
  obtain ⟨_, _, hurl'', hunfetched⟩ :=
    run_takes_course sampleLogin hparse rfl epoch [.reply Attempt.page, .reply Attempt.page]
  obtain ⟨_, _, -, hrefused⟩ := run_takes_course
    { sampleLogin with secretKey := "" } hparse rfl epoch [.reply noncePage, .reply Attempt.page]
  cases hpage.symm.trans hurl
  cases hpage.symm.trans hurl'
  cases hpage.symm.trans hurl''
  refine ⟨hparse, rfl, ⟨submitted, ?_, hcourse.requests⟩, ?_, ?_, ?_⟩
  · exact hcourse.submits_fetched _ _ key rfl hfetched hnonce hkey
  · rw [hgiven.requests, hgiven.fetching_given "" rfl, List.nil_append]
    exact hgiven.submits_given "" key rfl hkey hask
  · exact (hunfetched.fails_unfetched _ rfl hmissed (.unaccepted hunaccepted)).1
  · exact (hrefused.fails_unkeyed _ hunkeyed).1

-- A valid key and a nonce are there, and yet nothing is posted.
theorem nothing_submitted_to_unaskable :
    Url.parse "http://ho`st" = .ok Attempt.unaskable ∧ isWeb Attempt.unaskable = true ∧
      (∃ key, Key.ofText sampleLogin.secretKey = .ok key) ∧
      (Login.run { sampleLogin with url := Attempt.unaskable, nonce := some "abc123" } epoch
        ⟨[.reply Attempt.page], true⟩).requests = [] :=
  ⟨Attempt.parse_unaskable, rfl, exists_sampleKey, by decide +kernel⟩

end Sample

end ChallengeLogin.Login
