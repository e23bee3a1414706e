import ChallengeLogin.Proofs.Attempt.Transmission
import ChallengeLogin.Proofs.Http.Confinement
import ChallengeLogin.Proofs.Session.Cookie

namespace ChallengeLogin.Session

open ChallengeLogin.Http (Askable Peer Request askedUrl bare isWeb sameName valuesOf)
open ChallengeLogin.Text

-- The URL is at the host and port of the site.
def AtPlace (base url : Url) : Prop :=
  base.host = url.host ∧ base.effectivePort? = url.effectivePort?

-- No request up to and with the one at this index has left the site.
def Stayed (base : Url) (requests : List Request) (i : Nat) : Prop :=
  ∀ r ∈ requests.take (i + 1), AtPlace base r.url

def HasCookie (r : Request) : Prop :=
  valuesOf "cookie" r.headers ≠ []

-- A close that is over before anything has been sent
def Unsent (report : Report) (message : String) : Prop :=
  report.result.mapError Fault.message = .error message ∧ report.requests = []

-- The first of the requests posts the session to a URL.
def PostsSession (url : Url) (session : String) (requests : List Request) : Prop :=
  ∃ first rest, requests = first :: rest ∧ first.method = .post ∧ first.url = bare url ∧
    valuesOf "cookie" first.headers = [carried session]

section Closing

variable {base url : Url} {session : String} {peer : Peer} {requests : List Request} {i j : Nat}
  {r : Request}

theorem cookies_of_request (url : Url) (session : String) :
    valuesOf "cookie" (request url session).headers = [Utf8.bytesOf (cookie session)] := by
  have hcookie : sameName "cookie" "cookie" = true := by decide
  have hother : sameName "hx-request" "cookie" = false := by decide
  simp only [request, Http.valuesOf_cons, hcookie, hother, if_true, Bool.false_eq_true, if_false]
  rfl

theorem sendable_request_iff :
    (request url session).headers.all (fun h => Http.isSendableValue h.value) = true ↔
      ¬HasControl session := by
  have hrest : Http.isSendableValue (Utf8.bytesOf "true") = true := by decide
  simp only [request, List.all_cons, List.all_nil, hrest, Bool.and_true, isSendable_cookie_iff]

theorem stayed_iff :
    Stayed base requests i ↔
      (requests.take (i + 1)).all (Http.samePlace base ·.url) = true := by
  simp only [Stayed, AtPlace, List.all_eq_true, Http.samePlace_iff]

-- Those that have stayed up to an index have stayed up to all before it.
theorem Stayed.mono (h : Stayed base requests j) (hle : i ≤ j) : Stayed base requests i :=
  fun r hr => h r ((List.take_sublist_take_left (Nat.succ_le_succ hle)).mem hr)

variable [Charset.Decoders]

theorem requests_of_close (hurl : base.join logoutPath = .ok url) :
    (close base session peer).requests = ((request url session).exchange peer).requests := by
  rw [close, hurl]
  simp only
  split
  · rfl
  · split <;> rfl

theorem unsent_of_prepared {fault : Http.Fault} (hurl : base.join logoutPath = .ok url)
    (h : (request url session).prepared = .error fault) :
    Unsent (close base session peer) fault.message := by
  rw [Unsent, close, hurl]
  simp only [Request.exchange, h, and_true]
  rfl

theorem cookies_of_close (hsite : Url.IsSite base)
    (h : (close base session peer).requests[i]? = some r) :
    (Stayed base (close base session peer).requests i →
      valuesOf "cookie" r.headers = [carried session]) ∧
    (¬Stayed base (close base session peer).requests i → ¬HasCookie r) := by
  have hurl := Url.join_logoutPath hsite
  rw [requests_of_close hurl] at h ⊢
  have hcookies := Http.cookies_of_exchange _ _ i r h
  rw [cookies_of_request, List.map_singleton, trim_cookie] at hcookies
  rw [HasCookie, not_not, stayed_iff]
  exact ⟨fun hstayed => hcookies.trans (if_pos hstayed), fun hleft => hcookies.trans (if_neg hleft)⟩

theorem hasCookie_iff_stayed (hsite : Url.IsSite base)
    (h : (close base session peer).requests[i]? = some r) :
    HasCookie r ↔ Stayed base (close base session peer).requests i := by
  obtain ⟨hstayed, hleft⟩ := cookies_of_close hsite h
  constructor
  · exact fun hcookie => not_not.mp fun hnot => hleft hnot hcookie
  · intro hplace
    rw [HasCookie, hstayed hplace]
    exact List.cons_ne_nil _ _

theorem posts_session (hsite : Url.IsSite base) (hhost : base.hasHost = true)
    (hsendable : ¬HasControl session) (hpeer : peer.reachable = true)
    (hask : Askable (base.withPath ["admin", "logout"])) :
    PostsSession (base.withPath ["admin", "logout"]) session
      (close base session peer).requests := by
  obtain ⟨first, rest, hrequests, hmethod, hfirst, -⟩ := Http.first_of_askable
    (request (base.withPath ["admin", "logout"]) session) hhost
    (sendable_request_iff.mpr hsendable) hsite.web hask hpeer
  rw [← requests_of_close (Url.join_logoutPath hsite)] at hrequests
  have hzero : (close base session peer).requests[0]? = some first := by
    rw [hrequests]
    rfl
  have hstayed : Stayed base (close base session peer).requests 0 := by
    rw [hrequests]
    intro r hr
    rw [List.mem_singleton.mp hr, hfirst]
    exact ⟨rfl, rfl⟩
  exact ⟨first, rest, hrequests, hmethod, hfirst, (cookies_of_close hsite hzero).1 hstayed⟩

-- The cookie goes with a request exactly if no request so far has left the host and port of the
-- site, and of the headers that the program sets no others go with it. A session with a control
-- sends nothing, any other is posted if a request can be made for the URL, and those that replies
-- set are among the latter.
theorem close_confines_session {text : String} {base : Url} (hbase : Url.parse text = .ok base)
    (hweb : isWeb base = true) (session : String) (peer : Peer) :
    let report := close base session peer
    let url := base.withPath ["admin", "logout"]
    (∀ i r, report.requests[i]? = some r →
      (HasCookie r ↔ Stayed base report.requests i) ∧
        (HasCookie r → valuesOf "cookie" r.headers = [carried session])) ∧
    (∀ (i j : Nat) r s, i ≤ j → report.requests[i]? = some r → report.requests[j]? = some s →
      ¬HasCookie r → ¬HasCookie s) ∧
    (∀ r ∈ report.requests, (r.headers.map (·.name)).Sublist
      ["cookie", "hx-request", "authorization", "user-agent"]) ∧
    (HasControl session → Unsent report "builder error") ∧
    (¬HasControl session → peer.reachable = true →
      (Askable url → PostsSession url session report.requests) ∧
        (¬Askable url →
          Unsent report ("builder error for url (" ++ (askedUrl url).text ++ ")"))) ∧
    (Reply.Captures session → ¬HasControl session) := by
  intro report url
  have hsite := Url.isSite_of_parse hbase hweb
  have hhost := Url.hasHost_of_parse hbase hweb
  have hurl : base.join logoutPath = .ok url := Url.join_logoutPath hsite
  refine ⟨fun i r hr => ?_, fun i j r s hle hr hs hnone hsome => ?_, fun r hr => ?_,
    fun hcontrol => ?_, fun hplain hpeer => ⟨fun hask => ?_, fun hask => ?_⟩,
    not_hasControl_of_captures⟩
  · have hiff := hasCookie_iff_stayed hsite hr
    exact ⟨hiff, fun hcookie => (cookies_of_close hsite hr).1 (hiff.mp hcookie)⟩
  · have hstayed := (hasCookie_iff_stayed hsite hs).mp hsome
    exact hnone ((hasCookie_iff_stayed hsite hr).mpr (hstayed.mono hle))
  · rw [show report.requests = _ from requests_of_close hurl] at hr
    exact Http.header_names_of_mem hr
  · refine unsent_of_prepared hurl (Http.prepared_of_unsendable (request url session) hhost ?_)
    exact Bool.eq_false_iff.mpr fun hall => sendable_request_iff.mp hall hcontrol
  · exact posts_session hsite hhost hplain hpeer hask
  · exact unsent_of_prepared hurl (Http.prepared_of_not_askable (request url session) hhost
      (sendable_request_iff.mpr hplain) hask)

end Closing

section Sample

open ChallengeLogin.Attempt (loopback page parse_loopback parse_unaskable unaskable)

attribute [local instance] Charset.Decoders.ascii

-- Redirects away from the site and back to it
def away : Http.Response :=
  ⟨302, [⟨"Location", Utf8.bytesOf "http://[::2]/admin"⟩], [], true⟩

def back : Http.Response :=
  ⟨302, [⟨"Location", Utf8.bytesOf "http://[::1]:3000/admin"⟩], [], true⟩

-- A reply that sets a session
def welcome : Http.Response :=
  ⟨200, [⟨"Set-Cookie", Utf8.bytesOf "admin-cookie=jwt; HttpOnly"⟩], [], true⟩

theorem captures_jwt : Reply.Captures "jwt" :=
  ⟨welcome, ⟨200, none, some "jwt", ""⟩, by decide +kernel, rfl⟩

theorem not_hasControl_jwt : ¬HasControl "jwt" :=
  not_hasControl_of_captures captures_jwt

-- Back at the site, the third request has no cookie any more.
theorem session_stays_behind :
    Url.parse "http://[::1]:3000" = .ok loopback ∧ isWeb loopback = true ∧
      Reply.Captures "jwt" ∧
      PostsSession (loopback.withPath ["admin", "logout"]) "jwt"
        (close loopback "jwt" ⟨[.reply away, .reply back, .reply page], true⟩).requests ∧
      (close loopback "jwt" ⟨[.reply away, .reply back, .reply page], true⟩).requests.map
        (fun r => (Http.samePlace loopback r.url, valuesOf "cookie" r.headers)) =
          [(true, [Utf8.bytesOf "admin-cookie=jwt"]), (false, []), (true, [])] ∧
      HasControl "a\nb" ∧ Unsent (close loopback "a\nb" ⟨[.reply page], true⟩) "builder error" := by
  obtain ⟨-, -, -, -, hposts, hcaptured⟩ := close_confines_session parse_loopback rfl "jwt"
    ⟨[.reply away, .reply back, .reply page], true⟩
  obtain ⟨-, -, -, hunsent, -⟩ :=
    close_confines_session parse_loopback rfl "a\nb" ⟨[.reply page], true⟩
  have hask : Askable (loopback.withPath ["admin", "logout"]) := by decide +kernel
  have hcontrol : HasControl "a\nb" := ⟨'\n', by decide, .inl (by decide)⟩
  exact ⟨parse_loopback, rfl, captures_jwt, (hposts (hcaptured captures_jwt) rfl).1 hask,
    by decide +kernel, hcontrol, hunsent hcontrol⟩

-- A site whose URL is well formed, but for which no request can be made
theorem captured_session_unsent :
    Url.parse "http://ho`st" = .ok unaskable ∧ isWeb unaskable = true ∧ Reply.Captures "jwt" ∧
      Unsent (close unaskable "jwt" ⟨[.reply page], true⟩)
        "builder error for url (http://ho`st/admin/logout)" := by
  refine ⟨parse_unaskable, rfl, captures_jwt, ?_⟩
  rw [Unsent]
  decide +kernel

end Sample

end ChallengeLogin.Session
