import ChallengeLogin.Proofs.Attempt.Acceptance
import ChallengeLogin.Proofs.Http.Sending

namespace ChallengeLogin.Attempt

open ChallengeLogin.Http (Answer Askable Peer Repeated askedUrl bare isWeb samePlace)

-- An attempt that is over before anything has been sent
structure Abandoned (report : Report) (fault : Fault) : Prop where
  result : report.result = .error fault
  requests : report.requests = []
  patches : report.patches = []

section Asking

variable [Http.Client] {base url : Url} {now : Moment} {signer : Signer} {form : Form}
  {event : SignedEvent} {rejection : Rejection} {peer : Peer}

theorem submit_asks_once (base : Url) (now : Moment) (signer : Signer) (form : Form) (peer : Peer) :
    (submit base now signer form peer).asked = [UnsignedEvent.ofNonce form.nonce now.time] ∧
      (submit base now signer form peer).signer =
        (signer.ask (UnsignedEvent.ofNonce form.nonce now.time)).2 := by
  rw [submit]
  obtain ⟨answer, left⟩ := signer.ask (UnsignedEvent.ofNonce form.nonce now.time)
  cases answer <;> exact ⟨rfl, rfl⟩

theorem submit_of_rejected
    (hrejected : (signer.ask (UnsignedEvent.ofNonce form.nonce now.time)).1 = .error rejection) :
    Abandoned (submit base now signer form peer) (.signing rejection) := by
  obtain ⟨left, hask⟩ := Signer.exists_ask hrejected
  constructor <;> simp only [submit, hask]

theorem submit_of_unjoined {fault : Url.Fault} (hurl : base.join loginPath = .error fault)
    (hsigned : (signer.ask (UnsignedEvent.ofNonce form.nonce now.time)).1 = .ok event) :
    Abandoned (submit base now signer form peer) (.base fault) := by
  obtain ⟨left, hask⟩ := Signer.exists_ask hsigned
  constructor <;> simp only [submit, hask, post, hurl]

end Asking

section Carrying

variable {base url : Url} {event : SignedEvent} {peer : Peer}

-- The requests that carry an event
def carrying (event : SignedEvent) (requests : List Http.Request) : List Http.Request :=
  requests.filter (fun r => r.body = Text.Utf8.bytesOf event.toJson)

theorem carrying_cons_of_body {r : Http.Request} (h : r.body = (request url event).body)
    (rest : List Http.Request) : carrying event (r :: rest) = r :: carrying event rest := by
  rw [body_request] at h
  rw [carrying, List.filter_cons, if_pos (decide_eq_true h), carrying]

theorem carrying_of_bare (url : Url) {requests : List Http.Request}
    (h : ∀ r ∈ requests, r.body = []) : carrying event requests = [] := by
  refine List.filter_eq_nil_iff.mpr fun r hmem hcarries => ?_
  have hbody : r.body = Text.Utf8.bytesOf event.toJson := of_decide_eq_true hcarries
  exact body_request_ne_nil url event
    ((body_request url event).trans (hbody.symm.trans (h r hmem)))

-- The login page is at the place of its base.
theorem samePlace_of_join {ready : Http.Request} (hurl : base.join loginPath = .ok url)
    (hready : (request url event).prepared = .ok ready) :
    samePlace base ready.received.url = true := by
  obtain ⟨-, hasked, hweb, -⟩ := Http.of_prepared hready
  have hsite := Url.isSite_of_join hurl hweb
  cases hurl.symm.trans (Url.join_loginPath hsite)
  have hbare : ready.received.url = bare (base.withPath ["admin", "login"]) :=
    (congrArg bare hasked).trans (Http.bare_askedUrl _)
  rw [hbare]
  simp [samePlace, bare, Url.withPath, Url.effectivePort?]

theorem two_le_carrying (h : Repeated peer ((request url event).exchange peer).requests) :
    2 ≤ (carrying event ((request url event).exchange peer).requests).length := by
  obtain ⟨first, second, rest, hrequests, hfirst, hsecond⟩ := Http.bodies_of_repeated h
  rw [hrequests, carrying_cons_of_body hfirst, carrying_cons_of_body hsecond]
  simp only [List.length_cons]
  omega

-- Where the first request is not repeated, the event goes to the place of the base or nowhere.
theorem carrying_of_not_repeated (hurl : base.join loginPath = .ok url)
    (h : ¬Repeated peer ((request url event).exchange peer).requests) :
    (carrying event ((request url event).exchange peer).requests).length ≤ 1 ∧
      ∀ posted ∈ carrying event ((request url event).exchange peer).requests,
        samePlace base posted.url = true := by
  rcases Http.bodies_of_not_repeated h with hnone | ⟨ready, rest, hready, hrequests, hbare⟩
  · rw [hnone]
    exact ⟨Nat.zero_le 1, fun _ hmem => absurd hmem List.not_mem_nil⟩
  · have hbody := Http.body_of_prepared hready
    rw [hrequests, carrying_cons_of_body (r := ready.received) hbody, carrying_of_bare url hbare]
    refine ⟨Nat.le_refl 1, fun posted hmem => ?_⟩
    rw [List.mem_singleton.mp hmem]
    exact samePlace_of_join hurl hready

-- The signed event is transmitted once, to the place of the base, exactly if the first request is
-- not repeated by a redirect.
theorem carried_once_iff [Http.Client] {signer : Signer} {form : Form} (base : Url)
    (now : Moment)
    (hsigned : (signer.ask (UnsignedEvent.ofNonce form.nonce now.time)).1 = .ok event)
    (peer : Peer) :
    ((carrying event (submit base now signer form peer).requests).length ≤ 1 ∧
        ∀ posted ∈ carrying event (submit base now signer form peer).requests,
          samePlace base posted.url = true) ↔
      ¬Repeated peer (submit base now signer form peer).requests := by
  cases hurl : base.join loginPath with
  | error fault =>
    rw [(submit_of_unjoined hurl hsigned).requests]
    constructor
    · rintro - ⟨-, -, -, -, -, hmany⟩
      exact absurd hmany (by decide)
    · exact fun _ => ⟨Nat.zero_le 1, fun _ hmem => absurd hmem List.not_mem_nil⟩
  | ok url =>
    rw [(submit_of_signed hurl hsigned peer).2.2]
    constructor
    · rintro ⟨hfew, -⟩ hrepeated
      have hmany := two_le_carrying hrepeated
      omega
    · exact carrying_of_not_repeated hurl

end Carrying

section Detour

attribute [local instance] Http.Client.plain

theorem carried_once_before_detour :
    (sampleSigner.ask (UnsignedEvent.ofNonce sampleForm.nonce epoch.time)).1 = .ok sampleEvent ∧
      ¬Repeated ⟨[.reply detour, .reply page], true⟩
        (submit loopback epoch sampleSigner sampleForm
          ⟨[.reply detour, .reply page], true⟩).requests ∧
      (carrying sampleEvent
          (submit loopback epoch sampleSigner sampleForm
            ⟨[.reply detour, .reply page], true⟩).requests).length ≤ 1 ∧
      ∀ posted ∈ carrying sampleEvent
          (submit loopback epoch sampleSigner sampleForm
            ⟨[.reply detour, .reply page], true⟩).requests,
        samePlace loopback posted.url = true := by
  have hsigned :
      (sampleSigner.ask (UnsignedEvent.ofNonce sampleForm.nonce epoch.time)).1 = .ok sampleEvent :=
    rfl
  have honce : ¬Repeated ⟨[.reply detour, .reply page], true⟩
      (submit loopback epoch sampleSigner sampleForm
        ⟨[.reply detour, .reply page], true⟩).requests := by
    rintro ⟨response, _, answers, hanswers, hstatus, -⟩
    cases hanswers
    exact absurd hstatus (by decide)
  exact ⟨hsigned, honce, (carried_once_iff loopback epoch hsigned _).mpr honce⟩

-- A redirect to another place that has the event posted there
def diversion : Http.Response :=
  ⟨307, [⟨"Location", Text.Utf8.bytesOf "http://[::2]/admin/login"⟩], [], true⟩

theorem carried_to_another_place :
    (sampleSigner.ask (UnsignedEvent.ofNonce sampleForm.nonce epoch.time)).1 = .ok sampleEvent ∧
      (carrying sampleEvent
        (submit loopback epoch sampleSigner sampleForm
          ⟨[.reply diversion, .reply page], true⟩).requests).map
            (fun posted => samePlace loopback posted.url) = [true, false] := by
  exact ⟨rfl, by decide +kernel⟩

end Detour

-- The first of the requests posts an event to a URL, as a text that is read back as the event
def PostsFirst (url : Url) (event : SignedEvent) (requests : List Http.Request) : Prop :=
  ∃ posted rest text, requests = posted :: rest ∧ posted.method = .post ∧ posted.url = bare url ∧
    posted.body = Text.Utf8.bytesOf text ∧ SignedEvent.ofJson text = .ok event

theorem exchange_posts_first {url : Url} {peer : Peer} (hhost : url.hasHost = true)
    (hweb : isWeb url = true) (hask : Askable url) (event : SignedEvent)
    (hpeer : peer.reachable = true) :
    PostsFirst url event ((request url event).exchange peer).requests := by
  obtain ⟨first, rest, hrequests, hmethod, hbare, hbody⟩ :=
    Http.first_of_askable (request url event) hhost Http.sendable_json hweb hask hpeer
  exact ⟨first, rest, event.toJson, hrequests, hmethod, hbare,
    hbody.trans (body_request url event), SignedEvent.ofJson_toJson event⟩

section Posting

variable [Http.Client] {base url : Url} {now : Moment} {signer : Signer} {form : Form}
  {event : SignedEvent} {peer : Peer}

theorem submit_of_unaskable (hurl : base.join loginPath = .ok url) (hhost : url.hasHost = true)
    (hask : ¬Askable url)
    (hsigned : (signer.ask (UnsignedEvent.ofNonce form.nonce now.time)).1 = .ok event) :
    Abandoned (submit base now signer form peer) (.network (.badUrl (askedUrl url))) := by
  obtain ⟨hresult, hpatches, hrequests⟩ := submit_of_signed hurl hsigned peer
  have hfault := Http.prepared_of_not_askable (request url event) hhost Http.sendable_json hask
  rw [Http.Request.exchange, hfault] at hresult hpatches hrequests
  exact ⟨hresult, hrequests, hpatches⟩

-- The signer is asked once, with the nonce of the form. Nothing is sent where it refuses or where
-- the base has no login page; on a site the event goes out with the first request, unless the URL
-- of the login page is one that no request can be made for.
theorem asks_once_then_posts (base : Url) (now : Moment) (signer : Signer) (form : Form)
    (answers : List Answer) :
    let report := submit base now signer form ⟨answers, true⟩
    ∃ question : UnsignedEvent, report.asked = [question] ∧
      report.signer = (signer.ask question).2 ∧ question.kind = 27235 ∧ question.tags = [] ∧
      question.content = (form.lookup "passwordNonce").getD "" ∧
      (∀ rejection, (signer.ask question).1 = .error rejection →
        Abandoned report (.signing rejection)) ∧
      ∀ event, (signer.ask question).1 = .ok event →
        (∀ fault, base.join loginPath = .error fault → Abandoned report (.base fault)) ∧
        ∀ text, Url.parse text = .ok base → isWeb base = true →
          ∃ url, base.join loginPath = .ok url ∧
            (Askable url → PostsFirst url event report.requests) ∧
            (¬Askable url → Abandoned report (.network (.badUrl (askedUrl url)))) := by
  intro report
  obtain ⟨hasked, hleft⟩ := submit_asks_once base now signer form ⟨answers, true⟩
  refine ⟨_, hasked, hleft, rfl, rfl, rfl, fun rejection => submit_of_rejected, ?_⟩
  intro event hsigned
  refine ⟨fun fault hurl => submit_of_unjoined hurl hsigned, fun text hbase hweb => ?_⟩
  have hurl := Url.join_loginPath (Url.isSite_of_parse hbase hweb)
  have hhost := Url.hasHost_withPath ["admin", "login"] (Url.hasHost_of_parse hbase hweb)
  refine ⟨_, hurl, fun hask => ?_, fun hask => submit_of_unaskable hurl hhost hask hsigned⟩
  rw [(submit_of_signed hurl hsigned _).2.2]
  exact exchange_posts_first hhost hweb hask event rfl

end Posting

section Sample

attribute [local instance] Http.Client.plain

-- A URL without a host to ask
def mailbox : Url :=
  { scheme := "mailto", path := .opaqueText "admin" }

-- A URL that is well formed, with a host that no request can be made for
def unaskable : Url :=
  { scheme := "http", host := some (.domain "ho`st"), path := .segments [""] }

theorem parse_unaskable : Url.parse "http://ho`st" = .ok unaskable := by
  decide +kernel

-- The first of these attempts is refused by the signer, the second has no login page to go to, the
-- third posts the event, and the fourth cannot.
theorem asks_once_then_posts_samples :
    Abandoned (submit loopback epoch (.constant .absent) sampleForm ⟨[.reply page], true⟩)
        (.signing (.unavailable "no signer configured")) ∧
      mailbox.join loginPath = .error .relativeToOpaqueBase ∧
      Abandoned (submit mailbox epoch sampleSigner sampleForm ⟨[.reply page], true⟩)
        (.base .relativeToOpaqueBase) ∧
      Url.parse "http://[::1]:3000" = .ok loopback ∧ isWeb loopback = true ∧
      Askable loopbackLogin ∧
      PostsFirst loopbackLogin sampleEvent
        (submit loopback epoch sampleSigner sampleForm
          ⟨[.reply detour, .reply page], true⟩).requests ∧
      ¬Askable (unaskable.withPath ["admin", "login"]) ∧
      Abandoned (submit unaskable epoch sampleSigner sampleForm ⟨[.reply page], true⟩)
        (.network (.badUrl (unaskable.withPath ["admin", "login"]))) := by
  have hopaque : mailbox.join loginPath = .error .relativeToOpaqueBase := by decide +kernel
  have hask : Askable loopbackLogin := by decide +kernel
  have hnot : ¬Askable (unaskable.withPath ["admin", "login"]) := by decide +kernel
  obtain ⟨_, -, -, -, -, -, hrejected, -⟩ :=
    asks_once_then_posts loopback epoch (.constant .absent) sampleForm [.reply page]
  obtain ⟨_, -, -, -, -, -, -, hunjoined⟩ :=
    asks_once_then_posts mailbox epoch sampleSigner sampleForm [.reply page]
  obtain ⟨_, -, -, -, -, -, -, hsite⟩ :=
    asks_once_then_posts loopback epoch sampleSigner sampleForm [.reply detour, .reply page]
  obtain ⟨_, -, -, -, -, -, -, hunsent⟩ :=
    asks_once_then_posts unaskable epoch sampleSigner sampleForm [.reply page]
  obtain ⟨url, hurl, hposts, -⟩ := (hsite sampleEvent rfl).2 _ parse_loopback rfl
  obtain ⟨other, hother, -, habandoned⟩ := (hunsent sampleEvent rfl).2 _ parse_unaskable rfl
  cases hurl.symm.trans (Url.join_loginPath (Url.isSite_of_parse parse_loopback rfl))
  cases hother.symm.trans (Url.join_loginPath (Url.isSite_of_parse parse_unaskable rfl))
  exact ⟨hrejected _ rfl, hopaque, (hunjoined sampleEvent rfl).1 _ hopaque, parse_loopback, rfl,
    hask, hposts hask, hnot, habandoned hnot⟩

-- A site whose URL is well formed is sent nothing at all.
theorem nothing_posted_to_unaskable :
    Url.parse "http://ho`st" = .ok unaskable ∧ isWeb unaskable = true ∧
      unaskable.join loginPath = .ok (unaskable.withPath ["admin", "login"]) ∧
      (sampleSigner.ask (UnsignedEvent.ofNonce sampleForm.nonce epoch.time)).1 = .ok sampleEvent ∧
      (submit unaskable epoch sampleSigner sampleForm ⟨[.reply page], true⟩).requests = [] := by
  have hsite := Url.isSite_of_parse parse_unaskable rfl
  exact ⟨parse_unaskable, rfl, Url.join_loginPath hsite, rfl, by decide +kernel⟩

end Sample

end ChallengeLogin.Attempt
