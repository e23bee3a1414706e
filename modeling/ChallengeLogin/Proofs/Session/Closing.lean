import ChallengeLogin.Proofs.Reply.Routing
import ChallengeLogin.Proofs.Session.Confinement

namespace ChallengeLogin.Session

open ChallengeLogin.Http (Answer Askable Ends Peer Request Response askedUrl bare isSuccess isWeb
  valuesOf)
open ChallengeLogin.Text

-- The first of the requests is a post to the URL that carries the mark of the page's own requests.
def PostsMarked (url : Url) (requests : List Request) : Prop :=
  ∃ first rest, requests = first :: rest ∧ first.method = .post ∧ first.url = bare url ∧
    valuesOf "hx-request" first.headers = [Utf8.bytesOf "true"]

section Ending

variable [Charset.Decoders] {base url : Url} {session : String} {peer : Peer}
  {response : Response} {body : String}

theorem close_of_success (hurl : base.join logoutPath = .ok url)
    (hends : Ends (request url session) peer (.ok response))
    (hstatus : isSuccess response.status = true) : (close base session peer).result = .ok () := by
  rw [close, hurl]
  simp only [hends.eq_ending, hstatus, if_true]

theorem close_of_refusal (hurl : base.join logoutPath = .ok url)
    (hends : Ends (request url session) peer (.ok response))
    (hstatus : isSuccess response.status = false) :
    ∃ body, response.Tells body ∧
      (close base session peer).result = .error (.refused url response.status body) := by
  refine ⟨_, response.tells_readText, ?_⟩
  rw [close, hurl]
  simp only [hends.eq_ending, hstatus, Bool.false_eq_true, if_false]

theorem close_of_fault {fault : Http.Fault} (hurl : base.join logoutPath = .ok url)
    (hends : Ends (request url session) peer (.error fault)) :
    (close base session peer).result = .error (.network fault) := by
  rw [close, hurl]
  simp only [hends.eq_ending]

-- A closing comes to what the ending of its exchange makes of it, one of three things.
theorem close_cases (hurl : base.join logoutPath = .ok url) (session : String) (peer : Peer) :
    (∃ response, Ends (request url session) peer (.ok response) ∧
      isSuccess response.status = true ∧ (close base session peer).result = .ok ()) ∨
    (∃ response body, Ends (request url session) peer (.ok response) ∧
      (close base session peer).result = .error (.refused url response.status body)) ∨
    ∃ cause, Ends (request url session) peer (.error cause) ∧
      (close base session peer).result = .error (.network cause) := by
  have hends := Http.ends_iff.mpr (rfl : ((request url session).exchange peer).ending = _)
  cases hending : ((request url session).exchange peer).ending with
  | error cause =>
    rw [hending] at hends
    exact .inr (.inr ⟨cause, hends, close_of_fault hurl hends⟩)
  | ok response =>
    rw [hending] at hends
    by_cases hstatus : isSuccess response.status = true
    · exact .inl ⟨response, hends, hstatus, close_of_success hurl hends hstatus⟩
    · obtain ⟨body, -, hrefused⟩ := close_of_refusal hurl hends (Bool.eq_false_iff.mpr hstatus)
      exact .inr (.inl ⟨response, body, hends, hrefused⟩)

theorem close_ok_iff (hurl : base.join logoutPath = .ok url) :
    (close base session peer).result = .ok () ↔
      ∃ response, Ends (request url session) peer (.ok response) ∧
        isSuccess response.status = true := by
  constructor
  · intro hok
    rcases close_cases hurl session peer with
      ⟨response, hends, hstatus, -⟩ | ⟨_, _, -, hrefused⟩ | ⟨_, -, hfault⟩
    · exact ⟨response, hends, hstatus⟩
    · cases hok.symm.trans hrefused
    · cases hok.symm.trans hfault
  · rintro ⟨response, hends, hstatus⟩
    exact close_of_success hurl hends hstatus

theorem posts_marked (hsite : Url.IsSite base) (hhost : base.hasHost = true)
    (hlegal : ¬HasControl session) (hpeer : peer.reachable = true)
    (hask : Askable (base.withPath ["admin", "logout"])) :
    PostsMarked (base.withPath ["admin", "logout"]) (close base session peer).requests := by
  obtain ⟨ready, hready⟩ := Http.prepared_of_askable
    (request (base.withPath ["admin", "logout"]) session) hhost (sendable_request_iff.mpr hlegal)
    hsite.web hask
  obtain ⟨rest, hrequests⟩ := Http.first_of_prepared hready hpeer
  obtain ⟨hmethod, hurl, -, -⟩ := Http.of_prepared hready
  have hcookie : Http.sameName "cookie" "hx-request" = false := by decide
  have hmark : Http.sameName "hx-request" "hx-request" = true := by decide
  refine ⟨ready.received, rest, ?_, hmethod, ?_, ?_⟩
  · rw [requests_of_close (Url.join_logoutPath hsite), hrequests]
  · exact (congrArg bare hurl).trans (Http.bare_askedUrl _)
  · rw [Http.valuesOf_received, Http.valuesOf_of_prepared (by decide) (by decide) hready]
    simp only [request, Http.valuesOf_cons, hcookie, hmark, if_true, Bool.false_eq_true, if_false]
    decide

-- A session is closed exactly if the reply that ends the exchange is a success, whatever comes of
-- its body. Any other reply is told with the URL of the site and the text that its body is read as,
-- and an exchange without one by its fault. The request is posted to that URL first, if a request
-- can be made for it.
theorem close_decided_by_final_reply {text : String} {base : Url}
    (hbase : Url.parse text = .ok base) (hweb : isWeb base = true) {session : String}
    (hlegal : ¬HasControl session) (peer : Peer) :
    let report := close base session peer
    let url := base.withPath ["admin", "logout"]
    (∃ ending, Ends (request url session) peer ending ∧
      ∀ other, Ends (request url session) peer other → other = ending) ∧
    (report.result = .ok () ↔ ∃ response, Ends (request url session) peer (.ok response) ∧
      200 ≤ response.status ∧ response.status ≤ 299) ∧
    (∀ response, Ends (request url session) peer (.ok response) →
      ¬(200 ≤ response.status ∧ response.status ≤ 299) → ∃ body, response.Tells body ∧
        report.result = .error (.refused url response.status body) ∧
        report.result.mapError Fault.message = .error (url.text ++ " - " ++
          Http.statusText response.status ++ ", " ++ trimBlank body)) ∧
    (∀ fault, Ends (request url session) peer (.error fault) →
      report.result = .error (.network fault)) ∧
    (peer.reachable = true →
      (Askable url → PostsMarked url report.requests) ∧
        (¬Askable url →
          Unsent report ("builder error for url (" ++ (askedUrl url).text ++ ")"))) := by
  intro report url
  have hsite := Url.isSite_of_parse hbase hweb
  have hhost := Url.hasHost_of_parse hbase hweb
  have hurl : base.join logoutPath = .ok url := Url.join_logoutPath hsite
  refine ⟨⟨_, Http.ends_iff.mpr rfl, fun other h => h.eq_ending.symm⟩, ?_,
    fun response hends hstatus => ?_, fun fault hends => close_of_fault hurl hends,
    fun hpeer => ⟨posts_marked hsite hhost hlegal hpeer, fun hask => ?_⟩⟩
  · simp only [← Reply.isSuccess_iff]
    exact close_ok_iff hurl
  · have hfailed : isSuccess response.status = false :=
      Bool.eq_false_iff.mpr fun hsuccess => hstatus (Reply.isSuccess_iff.mp hsuccess)
    obtain ⟨body, htells, hresult⟩ := close_of_refusal hurl hends hfailed
    refine ⟨body, htells, hresult, ?_⟩
    rw [show report.result = _ from hresult]
    rfl
  · exact unsent_of_prepared hurl (Http.prepared_of_not_askable (request url session) hhost
      (sendable_request_iff.mpr hlegal) hask)

end Ending

section Sample

open ChallengeLogin.Attempt (loopback page parse_loopback parse_unaskable unaskable)

attribute [local instance] Attempt.kanaClient

-- A refusal in a charset of two bytes a character, with a line break behind it
def outage : Response :=
  ⟨503, [⟨"Content-Type", Utf8.bytesOf "text/plain; charset=sjis"⟩],
    [0x20, 0x82, 0xA0, 0x21, 0x0A], true⟩

-- Behind a redirect to another host, a success whose body breaks off, a refusal, a refusal whose
-- body breaks off, and one redirect too many
theorem closed_behind_redirect :
    Url.parse "http://[::1]:3000" = .ok loopback ∧ isWeb loopback = true ∧ ¬HasControl "jwt" ∧
      (close loopback "jwt" ⟨[.reply away, .reply { page with complete := false }], true⟩).result =
        .ok () ∧
      (close loopback "jwt" ⟨[.reply away, .reply outage], true⟩).result.mapError Fault.message =
        .error "http://[::1]:3000/admin/logout - 503 Service Unavailable, あ!" ∧
      (close loopback "jwt"
          ⟨[.reply away, .reply { outage with complete := false }], true⟩).result.mapError
            Fault.message =
        .error "http://[::1]:3000/admin/logout - 503 Service Unavailable, " ∧
      (∃ target, (close loopback "jwt" ⟨List.replicate 11 (.reply away), true⟩).result =
        .error (.network (.tooManyRedirects target))) ∧
      PostsMarked (loopback.withPath ["admin", "logout"])
        (close loopback "jwt" ⟨[.reply away, .reply outage], true⟩).requests := by
  obtain ⟨-, hcloses, -⟩ := close_decided_by_final_reply parse_loopback rfl not_hasControl_jwt
    ⟨[.reply away, .reply { page with complete := false }], true⟩
  obtain ⟨-, -, hrefused, -, hposts⟩ := close_decided_by_final_reply parse_loopback rfl
    not_hasControl_jwt ⟨[.reply away, .reply outage], true⟩
  obtain ⟨-, -, hcut, -⟩ := close_decided_by_final_reply parse_loopback rfl not_hasControl_jwt
    ⟨[.reply away, .reply { outage with complete := false }], true⟩
  obtain ⟨-, -, -, hfails, -⟩ := close_decided_by_final_reply parse_loopback rfl
    not_hasControl_jwt ⟨List.replicate 11 (.reply away), true⟩
  have hbroken : Ends (request (loopback.withPath ["admin", "logout"]) "jwt")
      ⟨[.reply away, .reply { page with complete := false }], true⟩
      (.ok { page with complete := false }) := Http.ends_iff.mpr (by decide +kernel)
  have houtage : Ends (request (loopback.withPath ["admin", "logout"]) "jwt")
      ⟨[.reply away, .reply outage], true⟩ (.ok outage) := Http.ends_iff.mpr (by decide +kernel)
  have hcutOutage : Ends (request (loopback.withPath ["admin", "logout"]) "jwt")
      ⟨[.reply away, .reply { outage with complete := false }], true⟩
      (.ok { outage with complete := false }) := Http.ends_iff.mpr (by decide +kernel)
  have hmany : Ends (request (loopback.withPath ["admin", "logout"]) "jwt")
      ⟨List.replicate 11 (.reply away), true⟩ (.error (.tooManyRedirects
        { scheme := "http", host := some (.ipv6 [0, 0, 0, 0, 0, 0, 0, 2]),
          path := .segments ["admin"] })) := Http.ends_iff.mpr (by decide +kernel)
  have htext : outage.Reads " あ!\n" := Response.reads_iff.mpr (by decide +kernel)
  have hmessage : (loopback.withPath ["admin", "logout"]).text ++ " - " ++ Http.statusText 503 ++
      ", " ++ trimBlank " あ!\n" =
        "http://[::1]:3000/admin/logout - 503 Service Unavailable, あ!" := by decide +kernel
  have hmessage' : (loopback.withPath ["admin", "logout"]).text ++ " - " ++ Http.statusText 503 ++
      ", " ++ trimBlank "" =
        "http://[::1]:3000/admin/logout - 503 Service Unavailable, " := by decide +kernel
  have hask : Askable (loopback.withPath ["admin", "logout"]) := by decide +kernel
  obtain ⟨told, htold, -, hresult⟩ := hrefused _ houtage (by decide)
  obtain ⟨none, hnone, -, hresult'⟩ := hcut _ hcutOutage (by decide)
  rw [Response.Tells.unique (.whole rfl htext) htold] at hresult
  rw [Response.Tells.unique (.broken rfl) hnone] at hresult'
  refine ⟨parse_loopback, rfl, not_hasControl_jwt, hcloses.mpr ⟨_, hbroken, by decide⟩, ?_, ?_,
    ⟨_, hfails _ hmany⟩, (hposts rfl).1 hask⟩
  · rw [← hmessage]
    exact hresult
  · rw [← hmessage']
    exact hresult'

-- A session and a site to close it at, and yet nothing is posted
theorem nothing_closed_at_unaskable :
    Url.parse "http://ho`st" = .ok unaskable ∧ isWeb unaskable = true ∧ ¬HasControl "jwt" ∧
      (close unaskable "jwt" ⟨[.reply page], true⟩).requests = [] :=
  ⟨parse_unaskable, rfl, not_hasControl_jwt, by decide +kernel⟩

end Sample

end ChallengeLogin.Session
