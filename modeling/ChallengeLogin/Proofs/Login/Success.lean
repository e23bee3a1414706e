import ChallengeLogin.Program
import ChallengeLogin.Proofs.Login.Posting

namespace ChallengeLogin.Login

open ChallengeLogin.Attempt (Decides epoch)
open ChallengeLogin.Http (Answer Askable DropsBody Ends Peer Response isSuccess isWeb)

-- The reply at the end of the exchange that posts the signed event of a login
def FinalReply (login : Login) (now : Moment) (peer : Peer) (response : Response) : Prop :=
  ∃ nonce left key url, login.Obtains peer nonce left ∧ Key.ofText login.secretKey = .ok key ∧
    login.url.join loginPath = .ok url ∧
    Ends (Attempt.request url (key.sign (.ofNonce nonce now.time))) left (.ok response)

-- A reply that is a success and has come whole
structure Accepts (response : Response) : Prop where
  status : isSuccess response.status = true
  complete : response.complete = true

-- A report of a login that has failed with a message, and what it has left on the page
structure Refused [Http.Client] (report : Report) (message : String) (patches : List Patch) :
    Prop where
  result : ∃ fault, report.result = .error fault ∧ fault.chain = [message]
  patches : report.patches = patches

-- How a login reports the final replies that it does not accept
structure Refuses [Http.Client] (response : Response) (report : Report) : Prop where
  unreadable : response.complete = false →
    report.result = .error (.attempt (.network .badBody)) ∧ report.patches = []
  shown : ∀ target, response.complete = true → isSuccess response.status = false →
    Reply.Names response.headers target → ∃ text, response.Reads text ∧
      Refused report
        ("login rejected with status " ++ toString response.status ++
          ", details rendered into " ++ selectorOf target)
        [⟨selectorOf target, text⟩]
  told : response.complete = true → isSuccess response.status = false →
    (∀ target, ¬Reply.Names response.headers target) → ∃ text, response.Reads text ∧
      Refused report
        ("login rejected with status " ++ toString response.status ++ ": " ++
          Text.trimBlank text) []

section Replied

variable {login : Login} {now : Moment} {peer : Peer} {response : Response}
  {result : Except Attempt.Fault Attempt.Outcome} {patches : List Patch}
  {outcome : Attempt.Outcome}

theorem finalReply_web (h : FinalReply login now peer response) : login.url.IsSite := by
  obtain ⟨_, _, _, url, -, -, hurl, hends⟩ := h
  cases hends with
  | stopped hready => exact Url.isSite_of_join hurl (Http.of_prepared hready).2.2.1

variable [Http.Client]

-- The final reply decides what a login reports.
theorem run_of_finalReply (h : FinalReply login now peer response)
    (hdecides : Decides (login.url.withPath ["admin"]) (.ok response) result patches) :
    (login.run now peer).result = conclude result ∧ (login.run now peer).patches = patches := by
  have hlocation := Url.join_dashboardPath (finalReply_web h)
  obtain ⟨nonce, left, key, url, hobtains, hkey, hurl, hends⟩ := h
  obtain ⟨hresult, hpatches, -⟩ := run_of_obtains hobtains now
  obtain ⟨hsettles, hputs, -⟩ := submit_settles hurl hkey now nonce left
  rw [hends.eq_ending, (hdecides.settle hlocation).1] at hsettles
  rw [hends.eq_ending, (hdecides.settle hlocation).2] at hputs
  exact ⟨hresult.trans hsettles, hpatches.trans hputs⟩

theorem run_of_accepts (h : FinalReply login now peer response) (haccepts : Accepts response) :
    ∃ outcome, (login.run now peer).result = .ok outcome := by
  by_cases htarget : ∃ target, Reply.Names response.headers target
  · obtain ⟨target, htarget⟩ := htarget
    have hrun := run_of_finalReply h (.patched haccepts.complete response.reads_text htarget)
    rw [conclude, if_pos haccepts.status] at hrun
    exact ⟨_, hrun.1⟩
  · rw [not_exists] at htarget
    exact ⟨_, (run_of_finalReply h (.navigated haccepts.complete htarget haccepts.status fun _ =>
      Reply.sessionOf_eq_some_iff)).1⟩

theorem run_refuses (h : FinalReply login now peer response) :
    Refuses response (login.run now peer) where
  unreadable hbody := run_of_finalReply h (.unreadable hbody)
  shown target hbody hstatus htarget := by
    have htext := response.reads_text
    obtain ⟨hresult, hpatches⟩ := run_of_finalReply h (.patched hbody htext htarget)
    rw [conclude, hstatus] at hresult
    exact ⟨_, htext, ⟨_, hresult, rfl⟩, hpatches⟩
  told hbody hstatus htarget := by
    have htext := response.reads_text
    obtain ⟨hresult, hpatches⟩ := run_of_finalReply h (.rejected hbody htext htarget hstatus)
    exact ⟨_, htext, ⟨_, hresult, rfl⟩, hpatches⟩

theorem accepts_of_run (h : FinalReply login now peer response)
    (hrun : (login.run now peer).result = .ok outcome) : Accepts response := by
  have hrefuses := run_refuses h
  by_cases hbody : response.complete = true
  · by_cases hstatus : isSuccess response.status = true
    · exact ⟨hstatus, hbody⟩
    rw [Bool.not_eq_true] at hstatus
    have hfailed : ∃ message patches, Refused (login.run now peer) message patches := by
      by_cases htarget : ∃ target, Reply.Names response.headers target
      · obtain ⟨target, htarget⟩ := htarget
        obtain ⟨text, -, hrefused⟩ := hrefuses.shown target hbody hstatus htarget
        exact ⟨_, _, hrefused⟩
      · obtain ⟨text, -, hrefused⟩ := hrefuses.told hbody hstatus (not_exists.mp htarget)
        exact ⟨_, _, hrefused⟩
    obtain ⟨_, _, ⟨fault, hfault, -⟩, -⟩ := hfailed
    cases hrun.symm.trans hfault
  · have hfault := (hrefuses.unreadable (Bool.eq_false_iff.mpr hbody)).1
    cases hrun.symm.trans hfault

theorem run_ok_iff_accepts (h : FinalReply login now peer response) :
    (∃ outcome, (login.run now peer).result = .ok outcome) ↔ Accepts response :=
  ⟨fun ⟨_, hrun⟩ => accepts_of_run h hrun, run_of_accepts h⟩

end Replied

section Unanswered

variable [Http.Client] {login : Login} {now : Moment} {peer : Peer} {outcome : Attempt.Outcome}

-- A login on a URL that has no login page fails, whether it is given a nonce or not.
theorem run_of_unjoined {fault : Url.Fault} (hpage : login.url.join loginPath = .error fault)
    (now : Moment) (peer : Peer) : ∃ fault, (login.run now peer).result = .error fault := by
  cases hnonce : login.nonce with
  | none => exact ⟨.challenge (.base fault), by simp only [run, hnonce, Challenge.fetch, hpage]⟩
  | some nonce =>
    rw [(run_of_obtains (.given hnonce) now).1]
    cases hkey : Key.ofText login.secretKey with
    | error keyFault => exact (submit_of_keyFault hkey now _ peer).1.result
    | ok key =>
      have habandoned : Attempt.Abandoned
          (Attempt.submit login.url now (.constant key.respondent) (.ofNonce nonce) peer) _ :=
        Attempt.submit_of_unjoined hpage rfl
      rw [(submit_of_key hkey now _ peer).1, habandoned.result]
      exact ⟨_, rfl⟩

theorem finalReply_of_submit {nonce : String} {left : Peer} {page : Url}
    (hobtains : login.Obtains peer nonce left) (hpage : login.url.join loginPath = .ok page)
    (h : (login.submit now (.ofNonce nonce) left).result = .ok outcome) :
    ∃ response, FinalReply login now peer response := by
  cases hkey : Key.ofText login.secretKey with
  | error keyFault =>
    obtain ⟨_, hfault⟩ := (submit_of_keyFault hkey now (.ofNonce nonce) left).1.result
    cases h.symm.trans hfault
  | ok key =>
    rw [(submit_settles hpage hkey now nonce left).1] at h
    cases hending : ((Attempt.request page
        (key.sign (.ofNonce nonce now.time))).exchange left).ending with
    | error fault =>
      rw [hending] at h
      cases h
    | ok response =>
      exact ⟨response, nonce, left, key, page, hobtains, hkey, hpage, Http.ends_iff.mpr hending⟩

-- Without a final reply there is no success.
theorem finalReply_of_run (h : (login.run now peer).result = .ok outcome) :
    ∃ response, FinalReply login now peer response := by
  cases hpage : login.url.join loginPath with
  | error fault =>
    obtain ⟨_, hfault⟩ := run_of_unjoined hpage now peer
    cases h.symm.trans hfault
  | ok page =>
    rcases obtains_or_fails login peer hpage with
      ⟨nonce, left, hobtains⟩ | ⟨hmissing, ending, hends, hfails⟩
    · rw [(run_of_obtains hobtains now).1] at h
      exact finalReply_of_submit hobtains hpage h
    · obtain ⟨⟨-, _, hfault⟩, -⟩ := run_of_fails hmissing hpage hends hfails now
      cases h.symm.trans hfault

end Unanswered

section Process

variable [Http.Client] {login : Login} {now : Moment} {peer : Peer}
  {environment : CommandLine.Environment} {words : List String}
  {invocation : CommandLine.Invocation}

section Exit

variable [Log.Filter.FieldRules]

theorem exitCode_perform_login (filter : Log.Filter) (traced : Bool) :
    (Program.perform (.login login) filter traced now peer).exitCode = 0 ↔
      ∃ outcome, (login.run now peer).result = .ok outcome := by
  rw [Program.perform, Action.execute, Action.executeLogin]
  cases (login.run now peer).result with
  | error fault => simp
  | ok outcome => simp

-- The program exits with zero exactly if traces can be sent where they are to go and the login
-- that it is asked for succeeds.
theorem exitCode_login (hparse : CommandLine.program.parse environment words = .ok invocation)
    (haction : invocation.action = .ok (.login login)) :
    (Program.run environment words now peer).exitCode = 0 ↔
      (Program.endpoint? environment).bind Telemetry.complaint? = none ∧
        ∃ outcome, (login.run now peer).result = .ok outcome := by
  rw [Program.run, hparse]
  simp only
  cases hcomplaint : (Program.endpoint? environment).bind Telemetry.complaint? with
  | some complaint => simp [Program.Run.failed]
  | none =>
    simp only [haction, true_and]
    exact exitCode_perform_login _ _

-- A login succeeds exactly with a final reply that it accepts. It reports every other one as a
-- failure, and the program that runs it exits with zero only where it succeeds.
theorem succeeds_iff_accepts (login : Login) (now : Moment) (peer : Peer) :
    ((∃ outcome, (login.run now peer).result = .ok outcome) ↔
        ∃ response, FinalReply login now peer response ∧ Accepts response) ∧
      (∀ response, FinalReply login now peer response →
        ((∃ outcome, (login.run now peer).result = .ok outcome) ↔ Accepts response) ∧
          Refuses response (login.run now peer)) ∧
      ∀ environment words invocation,
        CommandLine.program.parse environment words = .ok invocation →
        invocation.action = .ok (.login login) →
        ((Program.run environment words now peer).exitCode = 0 ↔
          (Program.endpoint? environment).bind Telemetry.complaint? = none ∧
            ∃ response, FinalReply login now peer response ∧ Accepts response) := by
  have hsucceeds : (∃ outcome, (login.run now peer).result = .ok outcome) ↔
      ∃ response, FinalReply login now peer response ∧ Accepts response := by
    constructor
    · rintro ⟨outcome, hrun⟩
      obtain ⟨response, hreply⟩ := finalReply_of_run hrun
      exact ⟨response, hreply, accepts_of_run hreply hrun⟩
    · rintro ⟨response, hreply, haccepts⟩
      exact run_of_accepts hreply haccepts
  refine ⟨hsucceeds, fun response hreply => ?_, fun _ _ _ hparse haction => ?_⟩
  · exact ⟨run_ok_iff_accepts hreply, run_refuses hreply⟩
  · rw [exitCode_login hparse haction, hsucceeds]

end Exit

end Process

section Sample

-- With a nonce that is given, a first reply that redirects nowhere is the final one.
theorem finalReply_of_first {login : Login} {now : Moment} {nonce : String} {key : Key}
    {page : Url} {response : Response} {hfinal : response.isFinal}
    {answers : List Answer} (hgiven : login.nonce = some nonce)
    (hkey : Key.ofText login.secretKey = .ok key) (hpage : login.url.join loginPath = .ok page)
    (hhost : page.hasHost = true) (hweb : isWeb page = true) (hask : Askable page)
    (hstays : ¬(DropsBody response.status ∨ response.status = 307 ∨ response.status = 308)) :
    FinalReply login now ⟨.reply response hfinal :: answers, true⟩ response.received :=
  ⟨nonce, _, key, page, .given hgiven, hkey, hpage,
    Http.ends_of_first hhost Http.sendable_json hweb hask hstays⟩

attribute [local instance] Attempt.kanaClient Log.Filter.FieldRules.idle

-- A login that is given its nonce, and the words that ask for it
def givenLogin : Login :=
  { sampleLogin with nonce := some "abc123" }

def givenWords : List String :=
  ["login", "--url", "http://[::1]:3000", "--secret-key", givenLogin.secretKey,
    "--nonce", "abc123"]

-- A refusal in Latin letters that are one byte each, for which the page has no region
def refusalInLatin : Response :=
  ⟨503, [⟨"Content-Type", Text.Utf8.bytesOf "text/plain; charset=latin1"⟩],
    [0x0A, 0x66, 0x65, 0x72, 0x6D, 0xE9, 0x20], true⟩

theorem finalReply_givenLogin {response : Response} {hfinal : response.isFinal}
    (hstays : ¬(DropsBody response.status ∨ response.status = 307 ∨ response.status = 308)) :
    FinalReply givenLogin epoch ⟨[.reply response hfinal], true⟩ response.received := by
  obtain ⟨key, hkey⟩ := exists_sampleKey
  have hask : Askable Attempt.loopbackLogin := by decide +kernel
  have hpage := Url.join_loginPath (Url.isSite_of_parse Attempt.parse_loopback rfl)
  exact finalReply_of_first rfl hkey hpage rfl rfl hask hstays

-- The program exits with zero after a page. One refusal is shown, of the other one the status and
-- the text are told.
theorem succeeds_with_page_only :
    FinalReply givenLogin epoch ⟨[.reply Attempt.page], true⟩ Attempt.page.received ∧
      (Program.run [] givenWords epoch ⟨[.reply Attempt.page], true⟩).exitCode = 0 ∧
      FinalReply givenLogin epoch ⟨[.reply Attempt.refusalInKana], true⟩
        Attempt.refusalInKana.received ∧
      Refused (givenLogin.run epoch ⟨[.reply Attempt.refusalInKana], true⟩)
        "login rejected with status 422, details rendered into #error-box"
        [⟨"#error-box", "<p>あ"⟩] ∧
      FinalReply givenLogin epoch ⟨[.reply refusalInLatin], true⟩ refusalInLatin.received ∧
      Refused (givenLogin.run epoch ⟨[.reply refusalInLatin], true⟩)
        "login rejected with status 503: fermé" [] := by
  have hparse : CommandLine.program.parse [] givenWords = .ok
      { command := some "login"
        programVerbosity := 0
        values :=
          { url := some givenLogin.url
            secretKey := some givenLogin.secretKey
            nonce := givenLogin.nonce } } := by decide +kernel
  have hpage : FinalReply givenLogin epoch ⟨[.reply Attempt.page], true⟩ Attempt.page.received :=
    finalReply_givenLogin (by decide)
  have hkana : FinalReply givenLogin epoch ⟨[.reply Attempt.refusalInKana], true⟩
      Attempt.refusalInKana.received := finalReply_givenLogin (by decide)
  have hlatin : FinalReply givenLogin epoch ⟨[.reply refusalInLatin], true⟩
      refusalInLatin.received := finalReply_givenLogin (by decide)
  obtain ⟨-, -, hexit⟩ := succeeds_iff_accepts givenLogin epoch ⟨[.reply Attempt.page], true⟩
  obtain ⟨-, hreplied, -⟩ :=
    succeeds_iff_accepts givenLogin epoch ⟨[.reply Attempt.refusalInKana], true⟩
  obtain ⟨-, hreplied', -⟩ := succeeds_iff_accepts givenLogin epoch ⟨[.reply refusalInLatin], true⟩
  have hnames : Reply.Names Attempt.refusalInKana.received.headers "error-box" :=
    Reply.targetOf_eq_some_iff.mp (by decide +kernel)
  have hnames' : ∀ target, ¬Reply.Names refusalInLatin.received.headers target :=
    Reply.targetOf_eq_none_iff.mp (by decide +kernel)
  have hreads : Attempt.refusalInKana.received.Reads "<p>あ" :=
    Http.Response.reads_iff.mpr (by decide +kernel)
  have hreads' : refusalInLatin.received.Reads "\nfermé " :=
    Http.Response.reads_iff.mpr (by decide +kernel)
  obtain ⟨shown, hshown, hrefused⟩ := (hreplied _ hkana).2.shown _ rfl rfl hnames
  obtain ⟨told, htold, hrefused'⟩ := (hreplied' _ hlatin).2.told rfl rfl hnames'
  rw [hreads.unique hshown] at hrefused
  rw [hreads'.unique htold] at hrefused'
  have hselector : selectorOf "error-box" = "#error-box" := by decide +kernel
  have hmessage : "login rejected with status " ++ toString 422 ++ ", details rendered into " ++
      "#error-box" = "login rejected with status 422, details rendered into #error-box" := by
    decide +kernel
  have hmessage' : "login rejected with status " ++ toString 503 ++ ": " ++
      Text.trimBlank "\nfermé " = "login rejected with status 503: fermé" := by decide +kernel
  refine ⟨hpage, (hexit [] givenWords _ hparse rfl).mpr ⟨rfl, _, hpage, rfl, rfl⟩, hkana, ?_,
    hlatin, ?_⟩
  · rw [← hmessage, ← hselector]
    exact hrefused
  · rw [← hmessage']
    exact hrefused'

-- The refusal names a region, but its body breaks off: nothing is shown, and what is reported does
-- not tell the status.
theorem nothing_shown_of_broken_body :
    FinalReply givenLogin epoch ⟨[.reply { Attempt.refusal with complete := false }], true⟩
        { Attempt.refusal.received with complete := false } ∧
      Reply.Names Attempt.refusal.received.headers "error-box" ∧
      (givenLogin.run epoch ⟨[.reply { Attempt.refusal with complete := false }], true⟩).patches =
        [] ∧
      (givenLogin.run epoch ⟨[.reply { Attempt.refusal with complete := false }], true⟩).result =
        .error (.attempt (.network .badBody)) :=
  ⟨finalReply_givenLogin (by decide), Reply.targetOf_eq_some_iff.mp (by decide),
    by decide +kernel, by decide +kernel⟩

end Sample

end ChallengeLogin.Login
