import ChallengeLogin.Program
import ChallengeLogin.Proofs.Attempt.Secrecy
import ChallengeLogin.Proofs.CommandLine.ShowCookie
import ChallengeLogin.Proofs.Login.Success

namespace ChallengeLogin

open ChallengeLogin.Attempt (Outcome epoch)
open ChallengeLogin.CommandLine (showCookieWord)
open ChallengeLogin.Http (Answer Header Peer)

namespace Login

section Reports

-- The report of a login that has been the same but for the cookies
def Report.withoutCookies (report : Report) : Report :=
  { report with
    result := report.result.map Outcome.withoutSession
    peer := report.peer.withoutCookies }

theorem conclude_withoutSession (result : Except Attempt.Fault Outcome) :
    conclude (result.map Outcome.withoutSession) =
      (conclude result).map Outcome.withoutSession := by
  cases result with
  | error fault => rfl
  | ok outcome =>
    cases outcome with
    | navigated location session => rfl
    | patched status selector =>
      simp only [Except.map, Outcome.withoutSession, conclude]
      split <;> rfl

variable [Http.Client] (login : Login) (now : Moment) (peer : Peer)

theorem submit_withoutCookies (form : Form) :
    login.submit now form peer.withoutCookies = (login.submit now form peer).withoutCookies := by
  rw [submit, submit]
  cases Key.ofText login.secretKey with
  | error fault => rfl
  | ok key =>
    simp only [Attempt.submit_withoutCookies, Attempt.Report.withoutCookies,
      conclude_withoutSession]
    rfl

theorem run_withoutCookies : login.run now peer.withoutCookies =
    (login.run now peer).withoutCookies := by
  rw [run, run]
  cases login.nonce with
  | some nonce => exact login.submit_withoutCookies now peer (.ofNonce nonce)
  | none =>
    simp only [Challenge.fetch_withoutCookies, Challenge.Report.withoutCookies]
    cases (Challenge.fetch login.url peer).result with
    | error fault => rfl
    | ok parameters =>
      simp only [submit_withoutCookies, Report.withoutCookies]

end Reports

section Disclosure

variable {login : Login} {now : Moment} {peer : Peer} {location : Url} {value : String}

-- A login that is to show its session has navigated and obtained one.
def Discloses [Http.Client] (login : Login) (now : Moment) (peer : Peer) (location : Url)
    (value : String) : Prop :=
  login.showCookie = true ∧ (login.run now peer).result = .ok (.navigated location (some value))

theorem outcomeLines_withoutSession {outcome : Outcome}
    (h : ∀ location value, outcome = .navigated location (some value) → login.showCookie = false) :
    login.outcomeLines outcome.withoutSession = login.outcomeLines outcome := by
  cases outcome with
  | patched status selector => rfl
  | navigated location session =>
    cases session with
    | none => rfl
    | some value =>
      rw [Outcome.withoutSession, outcomeLines, outcomeLines]
      simp [h location value rfl]

theorem outcomeLog_withoutSession (outcome : Outcome) :
    outcomeLog outcome.withoutSession = outcomeLog outcome := by
  cases outcome <;> rfl

theorem navigated_of_conclude {result : Except Attempt.Fault Outcome} {session : Option String}
    (h : conclude result = .ok (.navigated location session)) :
    result = .ok (.navigated location session) := by
  unfold conclude at h
  split at h
  · cases h
  · split at h <;> cases h
  · exact congrArg Except.ok (Except.ok.inj h)

variable [Http.Client]

theorem patches_of_submit {form : Form} {session : Option String}
    (h : (login.submit now form peer).result = .ok (.navigated location session)) :
    (login.submit now form peer).patches = [] := by
  cases hkey : Key.ofText login.secretKey with
  | error fault => exact (submit_of_keyFault hkey now form peer).1.patches
  | ok key =>
    obtain ⟨hresult, hpatches, -⟩ := submit_of_key hkey now form peer
    rw [hpatches]
    exact Attempt.patches_of_navigated (navigated_of_conclude (hresult.symm.trans h))

theorem patches_of_navigated {session : Option String}
    (h : (login.run now peer).result = .ok (.navigated location session)) :
    (login.run now peer).patches = [] := by
  unfold run at h ⊢
  cases hnonce : login.nonce with
  | some nonce =>
    rw [hnonce] at h
    exact patches_of_submit h
  | none =>
    rw [hnonce] at h
    simp only at h ⊢
    cases hfetched : (Challenge.fetch login.url peer).result with
    | error fault => rfl
    | ok parameters =>
      simp only [hfetched] at h ⊢
      exact patches_of_submit h

end Disclosure

end Login

section Closing

-- The report of a closing that has been the same but for the cookies
def Session.Report.withoutCookies (report : Session.Report) : Session.Report :=
  { report with peer := report.peer.withoutCookies }

theorem Session.close_withoutCookies [Text.Charset.Decoders] (base : Url) (session : String)
    (peer : Peer) :
    close base session peer.withoutCookies = (close base session peer).withoutCookies := by
  rw [close, close]
  cases base.join logoutPath with
  | error fault => rfl
  | ok url =>
    simp only [Http.exchange_withoutCookies, Http.Exchange.withoutCookies]
    cases ((request url session).exchange peer).ending with
    | error fault => rfl
    | ok response =>
      have hstatus : response.withoutCookies.status = response.status := rfl
      simp only [Except.map, Http.readText_withoutCookies, hstatus]
      split <;> rfl

end Closing

namespace Action

open Login (Discloses)

-- Whether an action is a login that is to show its session
def showsSession : Action → Bool
  | .login arguments => arguments.showCookie
  | _ => false

variable [Http.Client] {login : Login} {now : Moment} {peer : Peer} {location : Url}
  {value : String}

theorem executeLogin_withoutCookies
    (h : ∀ location value, ¬Discloses login now peer location value) :
    executeLogin login now peer.withoutCookies = executeLogin login now peer := by
  rw [executeLogin, executeLogin, Login.run_withoutCookies]
  simp only [Login.Report.withoutCookies]
  cases hresult : (login.run now peer).result with
  | error fault => rfl
  | ok outcome =>
    have hlines : login.outcomeLines outcome.withoutSession = login.outcomeLines outcome := by
      refine Login.outcomeLines_withoutSession ?_
      rintro location value rfl
      exact Bool.eq_false_iff.mpr fun hshow => h location value ⟨hshow, hresult⟩
    simp only [Except.map, hlines, Login.outcomeLog_withoutSession]

theorem executeLogin_of_discloses (h : Discloses login now peer location value) :
    (executeLogin login now peer.withoutCookies).output = location.text ++ "\n" ∧
      executeLogin login now peer =
        { executeLogin login now peer.withoutCookies with
          output := location.text ++ "\n" ++ (Session.cookie value ++ "\n") } := by
  obtain ⟨hshow, hresult⟩ := h
  rw [executeLogin, executeLogin, Login.run_withoutCookies]
  simp only [Login.Report.withoutCookies, hresult, Except.map, Login.patches_of_navigated hresult,
    Outcome.withoutSession, Login.outcomeLines, hshow]
  exact ⟨by simp [String.join], by simp [String.join, Login.outcomeLog]⟩

theorem execute_withoutCookies (action : Action) (now : Moment) (peer : Peer)
    (h : ∀ login location value, action = .login login → ¬login.Discloses now peer location value) :
    action.execute now peer.withoutCookies = action.execute now peer := by
  cases action with
  | login login =>
    exact executeLogin_withoutCookies fun location value => h login location value rfl
  | logout url session =>
    rw [execute, execute, executeLogout, executeLogout, Session.close_withoutCookies]
    rfl
  | pubkey secretKey => rfl

end Action

namespace Program

open ChallengeLogin.CommandLine (Environment Invocation program)

section Runs

variable {environment : Environment} {words : List String} {now : Moment} {peer other : Peer}
  {location : Url} {value : String}

-- A run of the program has a login show the session that it has obtained.
def Discloses [Http.Client] (environment : Environment) (words : List String) (now : Moment)
    (peer : Peer) (location : Url) (value : String) : Prop :=
  ∃ invocation login, program.parse environment words = .ok invocation ∧
    (endpoint? environment).bind Telemetry.complaint? = none ∧
    invocation.action = .ok (.login login) ∧ login.Discloses now peer location value

theorem showCookieWord_of_discloses [Http.Client]
    (h : Discloses environment words now peer location value) :
    showCookieWord ∈ words := by
  obtain ⟨invocation, login, hparse, -, haction, hshow, -⟩ := h
  by_contra hwords
  rw [CommandLine.showCookie_of_action haction,
    CommandLine.showCookie_of_parse hwords hparse] at hshow
  cases hshow

section Telling

variable [Http.Client] [Log.Filter.FieldRules]

theorem run_withoutCookies
    (h : ∀ location value, ¬Discloses environment words now peer location value) :
    run environment words now peer.withoutCookies = run environment words now peer := by
  rw [run, run]
  cases hparse : program.parse environment words with
  | error fault => rfl
  | ok invocation =>
    simp only
    cases hcomplaint : (endpoint? environment).bind Telemetry.complaint? with
    | some complaint => rfl
    | none =>
      simp only
      cases haction : invocation.action with
      | error fault => rfl
      | ok action =>
        simp only
        rw [perform, perform, Action.execute_withoutCookies]
        rintro login location value rfl hdiscloses
        exact h location value ⟨invocation, login, hparse, hcomplaint, haction, hdiscloses⟩

theorem run_of_discloses (h : Discloses environment words now peer location value) :
    (run environment words now peer.withoutCookies).output = location.text ++ "\n" ∧
      run environment words now peer =
        { run environment words now peer.withoutCookies with
          output := location.text ++ "\n" ++ (Session.cookie value ++ "\n") } := by
  obtain ⟨invocation, login, hparse, hcomplaint, haction, hdiscloses⟩ := h
  obtain ⟨houtput, hreport⟩ := Action.executeLogin_of_discloses hdiscloses
  simp only [run, hparse, hcomplaint, haction, perform, Action.execute]
  refine ⟨houtput, ?_⟩
  simp only [hreport]
  rfl

-- Two sites that differ only in the cookies that they set, neither with more header lines in a reply
-- than can be read, are told apart by no run, unless it is asked to show the session: then a login
-- that has navigated and obtained one prints one more line.
theorem run_keeps_session (environment : Environment) (words : List String) (now : Moment)
    (h : other.withoutCookies = peer.withoutCookies) :
    (showCookieWord ∉ words →
        run environment words now other = run environment words now peer) ∧
      (∀ action : Action, action.showsSession = false →
        action.execute now other = action.execute now peer) ∧
      ((∀ location value, ¬Discloses environment words now other location value) →
        run environment words now other = run environment words now peer.withoutCookies) ∧
      ∀ location value, Discloses environment words now other location value →
        showCookieWord ∈ words ∧
          (run environment words now peer.withoutCookies).output = location.text ++ "\n" ∧
          run environment words now other =
            { run environment words now peer.withoutCookies with
              output := location.text ++ "\n" ++ "admin-cookie=" ++ value ++ "\n" } := by
  refine ⟨fun hwords => ?_, fun action hshow => ?_, fun hquiet => ?_, fun _ value hshown => ?_⟩
  · have hquiet (site : Peer) : run environment words now site.withoutCookies =
        run environment words now site :=
      run_withoutCookies fun _ _ hshown => hwords (showCookieWord_of_discloses hshown)
    rw [← hquiet other, h, hquiet peer]
  · have hquiet (site : Peer) :
        action.execute now site.withoutCookies = action.execute now site := by
      refine action.execute_withoutCookies now site ?_
      rintro login location value rfl ⟨hshown, -⟩
      exact Bool.false_ne_true (hshow.symm.trans hshown)
    rw [← hquiet other, h, hquiet peer]
  · rw [← run_withoutCookies hquiet, h]
  · obtain ⟨houtput, hrun⟩ := run_of_discloses hshown
    rw [h] at houtput hrun
    refine ⟨showCookieWord_of_discloses hshown, houtput, hrun.trans ?_⟩
    simp only [Session.cookie, Session.cookieName, String.append_assoc]
    rfl

end Telling

end Runs

section Sample

attribute [local instance] Http.Client.plain Log.Filter.FieldRules.idle

-- The page with a session and another cookie
def greeting : Http.Response :=
  { Attempt.page with headers :=
      [⟨"Set-Cookie", Text.Utf8.bytesOf "theme=dark"⟩,
        ⟨"Set-Cookie", Text.Utf8.bytesOf "admin-cookie=s1; Path=/; HttpOnly"⟩] }

-- The words of the login, with as much logged as there is, and with the session shown
def tellingWords : List String :=
  Login.givenWords ++ ["-vvvv"]

def showingWords : List String :=
  Login.givenWords ++ [showCookieWord]

theorem run_keeps_session_of_greeting :
    Peer.withoutCookies ⟨[.reply greeting], true⟩ =
        Peer.withoutCookies ⟨[.reply Attempt.page], true⟩ ∧
      showCookieWord ∉ tellingWords ∧
      run [] tellingWords epoch ⟨[.reply greeting], true⟩ =
        run [] tellingWords epoch ⟨[.reply Attempt.page], true⟩ ∧
      (run [] tellingWords epoch ⟨[.reply greeting], true⟩).log.getLast?.map (·.line) =
        some ("INFO submit\x7bflow_id=00000000000000000000000000 status=200\x7d: login accepted " ++
          "location=http://[::1]:3000/admin") ∧
      Discloses [] showingWords epoch ⟨[.reply greeting], true⟩
        (Attempt.loopback.withPath ["admin"]) "s1" ∧
      (run [] showingWords epoch ⟨[.reply greeting], true⟩).output =
        "http://[::1]:3000/admin\nadmin-cookie=s1\n" := by
  have hcookies : Peer.withoutCookies ⟨[.reply greeting], true⟩ =
      Peer.withoutCookies ⟨[.reply Attempt.page], true⟩ := by decide
  have hwords : showCookieWord ∉ tellingWords := by decide
  have hparse : program.parse [] showingWords = .ok
      { command := some "login"
        programVerbosity := 0
        values :=
          { url := some Login.givenLogin.url
            secretKey := some Login.givenLogin.secretKey
            nonce := Login.givenLogin.nonce
            showCookie := true } } := by decide +kernel
  have hshown : Discloses [] showingWords epoch ⟨[.reply greeting], true⟩
      (Attempt.loopback.withPath ["admin"]) "s1" :=
    ⟨_, { Login.givenLogin with showCookie := true }, hparse, rfl, rfl, rfl, by decide +kernel⟩
  obtain ⟨hsame, -⟩ := run_keeps_session [] tellingWords epoch hcookies
  obtain ⟨-, -, -, hmore⟩ := run_keeps_session [] showingWords epoch hcookies
  obtain ⟨-, -, hrun⟩ := hmore _ _ hshown
  refine ⟨hcookies, hwords, hsame hwords, ?_, hshown, ?_⟩
  · decide +kernel
  · rw [hrun]
    decide +kernel

end Sample

end Program

end ChallengeLogin
