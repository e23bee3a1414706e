import ChallengeLogin.Challenge
import ChallengeLogin.Event.Json
import ChallengeLogin.Patch
import ChallengeLogin.Reply
import ChallengeLogin.Signer

namespace ChallengeLogin

open ChallengeLogin.Text

-- The seconds on the clock, and the id that is drawn to tell an attempt from others in the log
structure Moment where
  time : UInt64
  flowId : String
deriving DecidableEq, Repr

namespace Attempt

inductive Fault where
  | signing (rejection : Rejection)
  | base (fault : Url.Fault)
  | network (fault : Http.Fault)
  -- refused without a region to tell the reason in
  | rejected (status : Nat) (body : String)
deriving DecidableEq, Repr

def Fault.message : Fault → String
  | .signing rejection => rejection.message
  | .base fault => "invalid login url: " ++ fault.message
  | .network fault => "login request failed: " ++ fault.message
  | .rejected status _ => "login rejected with status " ++ toString status

-- The message of a fault and of its causes, the outermost first.
def Fault.chain [Http.Client] (fault : Fault) : List String :=
  match fault with
  | .base cause => [fault.message, cause.message]
  | .network cause => fault.message :: cause.chain
  | .signing _ | .rejected _ _ => [fault.message]

inductive Outcome where
  | navigated (location : Url) (session : Option String)
  | patched (status : Nat) (selector : String)
deriving DecidableEq, Repr

-- The request that posts a signed event.
def request (url : Url) (event : SignedEvent) : Http.Request :=
  ⟨.post, url, [⟨"content-type", Utf8.bytesOf "application/json"⟩], Utf8.bytesOf event.toJson⟩

section Log

-- The span of an attempt. It learns the status of the reply once that has been read.
def submitSpan (flowId : String) (status : Option Nat) : Log.Span :=
  ⟨"sigauth::login::flow", "submit",
    ⟨"flow_id", flowId⟩ :: status.toList.map fun status => ⟨"status", toString status⟩⟩

def sendSpan (url : Url) (event : SignedEvent) : Log.Span :=
  ⟨"sigauth::login::router", "send", [⟨"url", url.description⟩, ⟨"event_id", event.id⟩]⟩

def signed (event : SignedEvent) : Log.Entry :=
  ⟨.debug, "sigauth::login::signer", "challenge signed", [⟨"event_id", event.id⟩], []⟩

def signingRejected (rejection : Rejection) : Log.Entry :=
  ⟨.warn, "sigauth::login::signer", "signing rejected, aborting login",
    [⟨"error", rejection.message⟩], []⟩

def posting (url : Url) (event : SignedEvent) : Log.Entry :=
  ⟨.debug, "sigauth::login::router", "posting signed challenge", [], [sendSpan url event]⟩

def postingFailed [Http.Client] (fault : Http.Fault) : Log.Entry :=
  ⟨.error, "sigauth::login::flow", "Error posting login: " ++ Http.Client.describe fault, [], []⟩

def unreadableTarget : Log.Entry :=
  ⟨.warn, "sigauth::login::router", "ignoring non-ASCII HX-Retarget header", [], []⟩

def readingFailed [Http.Client] (fault : Http.Fault) : Log.Entry :=
  ⟨.error, "sigauth::login::flow",
    "Error reading login response: " ++ Http.Client.describe fault, [], []⟩

def accepted (location : Url) : Log.Entry :=
  ⟨.info, "sigauth::login::flow", "login accepted", [⟨"location", location.text⟩], []⟩

def patching (patch : Patch) : Log.Entry :=
  ⟨.debug, "sigauth::login::patch", "applying fragment patch",
    [⟨"selector", patch.selector⟩, ⟨"bytes", toString (Utf8.bytesOf patch.html).length⟩], []⟩

def rejected : Log.Entry :=
  ⟨.warn, "sigauth::login::flow", "login rejected without a target to render into", [], []⟩

end Log

-- What one step of an attempt came to, with the patches that it put in place and what it logged.
structure Effect (α : Type) where
  result : α
  patches : List Patch := []
  log : List Log.Entry := []

-- Does what a decision asks for.
def carryOut (base : Url) (decision : Decision) : Effect (Except Fault Outcome) :=
  match decision with
  | .navigate path session =>
    match base.join path with
    | .error fault => { result := .error (.base fault) }
    | .ok location => { result := .ok (.navigated location session), log := [accepted location] }
  | .patch status target html =>
    { result := .ok (.patched status (selectorOf target))
      patches := [.ofTarget target html]
      log := [patching (.ofTarget target html)] }
  | .unhandled status body => { result := .error (.rejected status body), log := [rejected] }

section Steps

variable [Http.Client]

-- Reads a reply and does what it asks for.
def conclude (base : Url) (flowId : String) (response : Http.Response) :
    Effect (Except Fault Outcome) :=
  let warnings := if Reply.hasUnreadableTarget response.headers then [unreadableTarget] else []
  match Reply.ofResponse response with
  | .error fault =>
    { result := .error (.network fault)
      log := (warnings ++ [readingFailed fault]).map (·.within (submitSpan flowId none)) }
  | .ok reply =>
    let effect := carryOut base reply.decision
    { effect with
      log := warnings.map (·.within (submitSpan flowId none)) ++
        effect.log.map (·.within (submitSpan flowId reply.status)) }

-- How the exchange of an attempt ended, and what follows from it.
def settle (base : Url) (flowId : String) (ending : Except Http.Fault Http.Response) :
    Effect (Except Fault Outcome) :=
  match ending with
  | .error fault =>
    { result := .error (.network fault)
      log := [(postingFailed fault).within (submitSpan flowId none)] }
  | .ok response => conclude base flowId response

-- Posts a signed event to a site.
def post (base : Url) (flowId : String) (event : SignedEvent) (peer : Http.Peer) :
    Effect (Except Fault Outcome) × List Http.Request × Http.Peer :=
  match base.join loginPath with
  | .error fault => ({ result := .error (.base fault) }, [], peer)
  | .ok url =>
    let exchange := (request url event).exchange peer
    let effect := settle base flowId exchange.ending
    let log := (posting url event).within (submitSpan flowId none) :: effect.log
    ({ effect with log }, exchange.requests, exchange.peer)

end Steps

-- What one attempt did: its result, the events that the signer was asked to sign, the requests that
-- the peer received, the patches and the log, with signer and peer as they are left.
structure Report where
  result : Except Fault Outcome
  asked : List UnsignedEvent
  requests : List Http.Request
  patches : List Patch
  log : List Log.Entry
  signer : Signer
  peer : Http.Peer

-- One attempt to log in to a site with the challenge of a form.
def submit [Http.Client] (base : Url) (now : Moment) (signer : Signer) (form : Form)
    (peer : Http.Peer) : Report :=
  let event := UnsignedEvent.ofNonce form.nonce now.time
  let span := submitSpan now.flowId none
  match signer.ask event with
  | (.error rejection, left) =>
    ⟨.error (.signing rejection), [event], [], [], [(signingRejected rejection).within span], left,
      peer⟩
  | (.ok signedEvent, left) =>
    let (effect, requests, peerLeft) := post base now.flowId signedEvent peer
    ⟨effect.result, [event], requests, effect.patches,
      (signed signedEvent).within span :: effect.log, left, peerLeft⟩

end Attempt

-- What attempts on one site go through: their signer, and the one port that puts their patches in
-- place
structure Flow where
  base : Url
  signer : Signer
  port : Port

-- One attempt of a flow, with the peer that answers it
structure Flow.Step where
  now : Moment
  form : Form
  peer : Http.Peer

namespace Flow

variable [Http.Client]

-- Makes an attempt. What it has done, and the flow as it is left.
def submit (flow : Flow) (step : Step) : Attempt.Report × Flow :=
  let report := Attempt.submit flow.base step.now flow.signer step.form step.peer
  (report, { flow with signer := report.signer, port := flow.port.putAll report.patches })

-- Makes attempts one after another.
def submitAll (flow : Flow) : List Step → List Attempt.Report × Flow
  | [] => ([], flow)
  | step :: rest =>
    let (report, next) := flow.submit step
    let (reports, last) := next.submitAll rest
    (report :: reports, last)

end Flow

end ChallengeLogin
