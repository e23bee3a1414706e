import ChallengeLogin.Attempt
import ChallengeLogin.Proofs.Http.Redirects
import ChallengeLogin.Proofs.Reply.Capture
import ChallengeLogin.Proofs.Url.Site

namespace ChallengeLogin.Attempt

open ChallengeLogin.Http (Response isSuccess valuesOf)

-- What an ending makes of an attempt: its result, and the patches that are put in place
inductive Decides [Http.Client] (location : Url) :
    Except Http.Fault Response → Except Fault Outcome → List Patch → Prop
  | unanswered {fault : Http.Fault} : Decides location (.error fault) (.error (.network fault)) []
  | unreadable {response : Response} (hbody : response.complete = false) :
      Decides location (.ok response) (.error (.network .badBody)) []
  | patched {response : Response} {target text : String} (hbody : response.complete = true)
      (htext : response.Reads text) (htarget : Reply.Names response.headers target) :
      Decides location (.ok response) (.ok (.patched response.status (selectorOf target)))
        [⟨selectorOf target, text⟩]
  | navigated {response : Response} {session : Option String} (hbody : response.complete = true)
      (htarget : ∀ target, ¬Reply.Names response.headers target)
      (hstatus : isSuccess response.status = true)
      (hsession : ∀ value, session = some value ↔
        Reply.FirstBrings (valuesOf "set-cookie" response.headers) value) :
      Decides location (.ok response) (.ok (.navigated location session)) []
  | rejected {response : Response} {text : String} (hbody : response.complete = true)
      (htext : response.Reads text) (htarget : ∀ target, ¬Reply.Names response.headers target)
      (hstatus : isSuccess response.status = false) :
      Decides location (.ok response) (.error (.rejected response.status text)) []

section Settling

variable [Http.Client] {base location : Url} {flowId : String} {ending : Except Http.Fault Response}
  {result : Except Fault Outcome} {patches : List Patch}

theorem conclude_of_complete (base : Url) (flowId : String) {response : Response}
    (h : response.complete = true) :
    (conclude base flowId response).result =
        (carryOut base (Reply.ofComplete response).decision).result ∧
      (conclude base flowId response).patches =
        (carryOut base (Reply.ofComplete response).decision).patches := by
  simp only [conclude, Reply.ofResponse_of_complete h, and_self]

theorem conclude_of_incomplete (base : Url) (flowId : String) {response : Response}
    (h : response.complete = false) :
    (conclude base flowId response).result = .error (.network .badBody) ∧
      (conclude base flowId response).patches = [] := by
  simp only [conclude, Reply.ofResponse_of_incomplete h, and_self]

theorem Decides.settle (hlocation : base.join dashboardPath = .ok location)
    (h : Decides location ending result patches) :
    (settle base flowId ending).result = result ∧
      (settle base flowId ending).patches = patches := by
  cases h with
  | unanswered => exact ⟨rfl, rfl⟩
  | unreadable hbody => exact conclude_of_incomplete base flowId hbody
  | patched hbody htext htarget =>
    obtain ⟨hresult, hpatches⟩ := conclude_of_complete base flowId hbody
    rw [Reply.decision_of_names htarget, htext.text_eq] at hresult hpatches
    exact ⟨hresult, hpatches⟩
  | @navigated response session hbody htarget hstatus hsession =>
    obtain ⟨hresult, hpatches⟩ := conclude_of_complete base flowId hbody
    have hbrought : Reply.sessionOf response.headers = session :=
      Option.ext fun value => Reply.sessionOf_eq_some_iff.trans (hsession value).symm
    rw [Reply.decision_of_success htarget hstatus, carryOut, hlocation, hbrought]
      at hresult hpatches
    exact ⟨hresult, hpatches⟩
  | rejected hbody htext htarget hstatus =>
    obtain ⟨hresult, hpatches⟩ := conclude_of_complete base flowId hbody
    rw [Reply.decision_of_refusal htarget hstatus, htext.text_eq] at hresult hpatches
    exact ⟨hresult, hpatches⟩

-- Every ending decides, whatever is in the reply.
theorem exists_decides (location : Url) (ending : Except Http.Fault Response) :
    ∃ result patches, Decides location ending result patches := by
  cases ending with
  | error fault => exact ⟨_, _, .unanswered⟩
  | ok response =>
    by_cases hbody : response.complete = true
    · by_cases htarget : ∃ target, Reply.Names response.headers target
      · obtain ⟨target, htarget⟩ := htarget
        exact ⟨_, _, .patched hbody response.reads_text htarget⟩
      · rw [not_exists] at htarget
        by_cases hstatus : isSuccess response.status = true
        · exact ⟨_, _, .navigated hbody htarget hstatus fun _ => Reply.sessionOf_eq_some_iff⟩
        · exact ⟨_, _, .rejected hbody response.reads_text htarget (Bool.eq_false_iff.mpr hstatus)⟩
    · exact ⟨_, _, .unreadable (Bool.eq_false_iff.mpr hbody)⟩

theorem decides_iff (hlocation : base.join dashboardPath = .ok location) :
    Decides location ending result patches ↔
      (settle base flowId ending).result = result ∧
        (settle base flowId ending).patches = patches := by
  refine ⟨Decides.settle hlocation, ?_⟩
  rintro ⟨rfl, rfl⟩
  obtain ⟨result, patches, h⟩ := exists_decides location ending
  obtain ⟨hresult, hpatches⟩ := h.settle hlocation
  rwa [hresult, hpatches]

-- What is told where an ending makes an attempt fail
theorem fault_of_settle {fault : Fault} (hlocation : base.join dashboardPath = .ok location)
    (h : (settle base flowId ending).result = .error fault) :
    (∃ cause, ending = .error cause ∧ fault = .network cause) ∨
      fault = .network .badBody ∨ ∃ status body, fault = .rejected status body := by
  have hdecides := (decides_iff hlocation).mpr ⟨h, rfl⟩
  generalize (settle base flowId ending).patches = patches at hdecides
  cases hdecides with
  | unanswered => exact .inl ⟨_, rfl, rfl⟩
  | unreadable => exact .inr (.inl rfl)
  | rejected => exact .inr (.inr ⟨_, _, rfl⟩)

end Settling

section Submitting

variable [Http.Client] {base url : Url} {now : Moment} {signer : Signer} {form : Form}
  {event : SignedEvent}

-- An attempt whose event has been signed is the settling of an exchange.
theorem submit_of_signed (hurl : base.join loginPath = .ok url)
    (hsigned : (signer.ask (UnsignedEvent.ofNonce form.nonce now.time)).1 = .ok event)
    (peer : Http.Peer) :
    (submit base now signer form peer).result =
        (settle base now.flowId ((request url event).exchange peer).ending).result ∧
      (submit base now signer form peer).patches =
        (settle base now.flowId ((request url event).exchange peer).ending).patches ∧
      (submit base now signer form peer).requests =
        ((request url event).exchange peer).requests := by
  obtain ⟨left, hask⟩ := Signer.exists_ask hsigned
  rw [submit]
  simp only [hask, post, hurl, and_self]

-- On a site, an attempt with a signed event is decided by how its exchange ends, which it does in
-- one way only, and by nothing else.
theorem submit_decided_by_ending {text : String} (hbase : Url.parse text = .ok base)
    (hweb : Http.isWeb base = true) (now : Moment)
    (hsigned : (signer.ask (UnsignedEvent.ofNonce form.nonce now.time)).1 = .ok event)
    (peer : Http.Peer) :
    ∃ ending,
      Http.Ends (request (base.withPath ["admin", "login"]) event) peer ending ∧
      (∀ other, Http.Ends (request (base.withPath ["admin", "login"]) event) peer other →
        other = ending) ∧
      ∀ result patches, Decides (base.withPath ["admin"]) ending result patches ↔
        (submit base now signer form peer).result = result ∧
          (submit base now signer form peer).patches = patches := by
  have hsite := Url.isSite_of_parse hbase hweb
  obtain ⟨hresult, hpatches, -⟩ :=
    submit_of_signed (Url.join_loginPath hsite) hsigned peer
  refine ⟨_, Http.ends_iff.mpr rfl, fun other h => h.eq_ending.symm, fun result patches => ?_⟩
  rw [hresult, hpatches]
  exact decides_iff (Url.join_dashboardPath hsite)

end Submitting

section Sample

-- The beginning of time, with an id drawn there
def epoch : Moment :=
  ⟨0, "00000000000000000000000000"⟩

-- The URL that `http://[::1]:3000` is read as
def loopback : Url :=
  { scheme := "http", host := some (.ipv6 [0, 0, 0, 0, 0, 0, 0, 1]), port := some 3000,
    path := .segments [""] }

theorem parse_loopback : Url.parse "http://[::1]:3000" = .ok loopback := by
  decide +kernel

def sampleForm : Form :=
  [("passwordNonce", "abc123")]

def sampleEvent : SignedEvent :=
  ⟨"e1", "pk", 0, 27235, [], "abc123", "s1"⟩

-- A signer that has signed that event
def sampleSigner : Signer :=
  .constant fun _ => .ok sampleEvent

-- A reply that redirects to the login page
def detour : Response :=
  ⟨302, [⟨"Location", Text.Utf8.bytesOf "/admin/login"⟩], [], true⟩

-- A refusal, told in a region of the page
def refusal : Response :=
  ⟨422, [⟨"HX-Retarget", Text.Utf8.bytesOf "error-box"⟩], Text.Utf8.bytesOf "<p>no</p>", true⟩

-- A refusal in a charset of two bytes a character
def refusalInKana : Response :=
  ⟨422, [⟨"Content-Type", Text.Utf8.bytesOf "text/html; charset=Shift_JIS"⟩,
    ⟨"HX-Retarget", Text.Utf8.bytesOf "error-box"⟩], [0x3C, 0x70, 0x3E, 0x82, 0xA0], true⟩

-- A success that brings a session
def welcome : Response :=
  ⟨200, [⟨"Set-Cookie", Text.Utf8.bytesOf "admin-cookie=s1; Path=/; HttpOnly"⟩], [], true⟩

-- A client that knows the hiragana A
@[reducible] def kanaClient : Http.Client :=
  .terse (.ofPairs fun charset a b =>
    if charset = .shiftJis ∧ a = 0x82 ∧ b = 0xA0 then some 'あ' else none)

attribute [local instance] kanaClient

-- A redirect with a refusal at its end, and one with a success
theorem submit_decided_by_refusal :
    Url.parse "http://[::1]:3000" = .ok loopback ∧ Http.isWeb loopback = true ∧
      (sampleSigner.ask (UnsignedEvent.ofNonce sampleForm.nonce epoch.time)).1 = .ok sampleEvent ∧
      (∃ ending,
        Http.Ends (request (loopback.withPath ["admin", "login"]) sampleEvent)
          ⟨[.reply detour, .reply refusalInKana], true⟩ ending ∧
        Decides (loopback.withPath ["admin"]) ending (.ok (.patched 422 "#error-box"))
          [⟨"#error-box", "<p>あ"⟩]) ∧
      ∃ ending,
        Http.Ends (request (loopback.withPath ["admin", "login"]) sampleEvent)
          ⟨[.reply detour, .reply welcome], true⟩ ending ∧
        Decides (loopback.withPath ["admin"]) ending
          (.ok (.navigated (loopback.withPath ["admin"]) (some "s1"))) [] := by
  have hweb : Http.isWeb loopback = true := rfl
  have hsigned :
      (sampleSigner.ask (UnsignedEvent.ofNonce sampleForm.nonce epoch.time)).1 =
        .ok sampleEvent := rfl
  obtain ⟨refused, hrefused, -, hpatched⟩ := submit_decided_by_ending parse_loopback hweb epoch
    hsigned ⟨[.reply detour, .reply refusalInKana], true⟩
  obtain ⟨welcomed, hwelcomed, -, hnavigated⟩ := submit_decided_by_ending parse_loopback hweb epoch
    hsigned ⟨[.reply detour, .reply welcome], true⟩
  refine ⟨parse_loopback, hweb, hsigned,
    ⟨refused, hrefused, (hpatched _ _).mpr ⟨?_, ?_⟩⟩,
    welcomed, hwelcomed, (hnavigated _ _).mpr ⟨?_, ?_⟩⟩
  · decide +kernel
  · decide +kernel
  · decide +kernel
  · decide +kernel

end Sample

end ChallengeLogin.Attempt
