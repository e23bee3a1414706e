import ChallengeLogin.Attempt
import ChallengeLogin.Key

namespace ChallengeLogin

open ChallengeLogin.Text

-- How to log in. Without a nonce the login page is asked for one.
structure Login where
  url : Url
  secretKey : String
  nonce : Option String := none
  showCookie : Bool := false
deriving DecidableEq, Repr

namespace Login

inductive Fault where
  | challenge (fault : Challenge.Fault)
  | key (fault : KeyFault)
  -- refused with the reason told in a region
  | rejectedInPlace (status : Nat) (selector : String)
  | attempt (fault : Attempt.Fault)
deriving DecidableEq, Repr

-- The message of a fault and of its causes, the outermost first.
def Fault.chain [Http.Client] : Fault → List String
  | .challenge fault => "Failed to fetch login challenge" :: fault.chain
  | .key fault => [fault.rejection.message]
  | .rejectedInPlace status selector =>
    ["login rejected with status " ++ toString status ++ ", details rendered into " ++ selector]
  | .attempt (.rejected status body) =>
    ["login rejected with status " ++ toString status ++ ": " ++ trimBlank body]
  | .attempt fault => fault.chain

def signing (key : Key) : Log.Entry :=
  ⟨.info, "sigauth::cli::actions::login", "signing login challenge", [⟨"pubkey", key.pubkey⟩], []⟩

structure Report where
  result : Except Fault Attempt.Outcome
  requests : List Http.Request
  patches : List Patch
  log : List Log.Entry
  peer : Http.Peer

-- A region that shows a refusal is a failure all the same.
def conclude : Except Attempt.Fault Attempt.Outcome → Except Fault Attempt.Outcome
  | .error fault => .error (.attempt fault)
  | .ok (.patched status selector) =>
    if Http.isSuccess status then .ok (.patched status selector)
    else .error (.rejectedInPlace status selector)
  | .ok outcome => .ok outcome

-- Signs and submits the challenge of a form.
def submit [Http.Client] (login : Login) (now : Moment) (form : Form) (peer : Http.Peer) : Report :=
  match Key.ofText login.secretKey with
  | .error fault => ⟨.error (.key fault), [], [], [], peer⟩
  | .ok key =>
    let report := Attempt.submit login.url now (.constant key.respondent) form peer
    ⟨conclude report.result, report.requests, report.patches, signing key :: report.log,
      report.peer⟩

-- Obtains a challenge, signs it and submits it once.
def run [Http.Client] (login : Login) (now : Moment) (peer : Http.Peer) : Report :=
  match login.nonce with
  | some nonce => login.submit now (.ofNonce nonce) peer
  | none =>
    let fetched := Challenge.fetch login.url peer
    match fetched.result with
    | .error fault => ⟨.error (.challenge fault), fetched.requests, [], fetched.log, fetched.peer⟩
    | .ok parameters =>
      let report := login.submit now parameters.form fetched.peer
      { report with
        requests := fetched.requests ++ report.requests
        log := fetched.log ++ report.log }

-- The lines that a login prints once it has succeeded.
def outcomeLines (login : Login) : Attempt.Outcome → List String
  | .navigated location session =>
    (location.text ++ "\n") ::
      match session with
      | some value => if login.showCookie then [Session.cookie value ++ "\n"] else []
      | none => []
  | .patched _ _ => []

-- What is logged about a login once it has succeeded.
def outcomeLog : Attempt.Outcome → List Log.Entry
  | .navigated _ _ => []
  | .patched _ selector =>
    [⟨.debug, "sigauth::cli::actions::login", "login response rendered into " ++ selector, [], []⟩]

end Login

inductive Action where
  | login (arguments : Login)
  | logout (url : Url) (session : String)
  | pubkey (secretKey : String)
deriving DecidableEq, Repr

namespace Action

-- What an action did: what it printed, the chain of messages if it failed, its requests and log.
structure Report where
  output : String
  failure : Option (List String) := none
  requests : List Http.Request := []
  log : List Log.Entry := []

def executeLogin [Http.Client] (login : Login) (now : Moment) (peer : Http.Peer) : Report :=
  let report := login.run now peer
  let shown := String.join (report.patches.map Patch.line)
  match report.result with
  | .error fault => ⟨shown, some fault.chain, report.requests, report.log⟩
  | .ok outcome =>
    { output := shown ++ String.join (login.outcomeLines outcome)
      requests := report.requests
      log := report.log ++ Login.outcomeLog outcome }

def executeLogout [Http.Client] (url : Url) (session : String) (peer : Http.Peer) : Report :=
  let report := Session.close url session peer
  match report.result with
  | .error fault =>
    ⟨"", some ("Failed to close admin session" :: fault.chain), report.requests, report.log⟩
  | .ok () => ⟨"session closed\n", none, report.requests, report.log⟩

def executePubkey (secretKey : String) : Report :=
  match Key.ofText secretKey with
  | .error fault => { output := "", failure := some [fault.rejection.message] }
  | .ok key => { output := key.pubkey ++ "\n" }

-- Runs an action at a given time against a peer.
def execute [Http.Client] (action : Action) (now : Moment) (peer : Http.Peer) : Report :=
  match action with
  | .login arguments => executeLogin arguments now peer
  | .logout url session => executeLogout url session peer
  | .pubkey secretKey => executePubkey secretKey

end Action

end ChallengeLogin
