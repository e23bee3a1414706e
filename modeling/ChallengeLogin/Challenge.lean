import ChallengeLogin.Http.Exchange
import ChallengeLogin.Json.Record
import ChallengeLogin.Log.Basic

namespace ChallengeLogin

open ChallengeLogin.Text

-- The fields of a submitted form.
abbrev Form := List (String × String)

namespace Form

-- The field that holds the nonce.
def nonceField : String := "passwordNonce"

-- The form that submits a nonce and nothing else.
def ofNonce (nonce : String) : Form :=
  [(nonceField, nonce)]

-- The nonce of a form; empty where the field is missing.
def nonce (form : Form) : String :=
  (form.lookup nonceField).getD ""

@[simp] theorem nonce_ofNonce (s : String) : (ofNonce s).nonce = s := by
  simp [ofNonce, nonce]

end Form

-- What the login page tells about itself.
structure PageParameters where
  nonce : String
  adminKey : String
deriving DecidableEq, Repr

namespace PageParameters

-- Page parameters while their members are being read
structure Partial where
  nonce : Option String := none
  adminKey : Option String := none

def members : List (Json.Member Partial) :=
  [ ⟨"Nonce", true, (·.nonce.isSome), Json.Reader.string.map fun v p => { p with nonce := some v }⟩,
    ⟨"ADMINNPUB", false, (·.adminKey.isSome),
      Json.Reader.string.map fun v p => { p with adminKey := some v }⟩ ]

-- The nonce is there once the reading of a record has succeeded
def Partial.complete (p : Partial) : PageParameters :=
  ⟨p.nonce.getD "", p.adminKey.getD ""⟩

def ofSymbols (s : Symbols) : Except Json.Fault PageParameters :=
  (Json.readRecord members {} s).map Partial.complete

-- Reads the JSON text of page parameters.
def ofJson (text : String) : Except Json.Fault PageParameters :=
  ofSymbols (text.toList.map some)

-- Reads the JSON text of page parameters from the bytes of a reply.
def ofBytes (bs : Bytes) : Except Json.Fault PageParameters :=
  ofSymbols (Utf8.symbols bs)

-- The form that the login page would submit.
def form (parameters : PageParameters) : Form :=
  .ofNonce parameters.nonce

end PageParameters

-- The path of the login page, to which signed events are posted too.
def loginPath : String := "/admin/login"

namespace Challenge

inductive Fault where
  | base (fault : Url.Fault)
  | network (fault : Http.Fault)
  | refused (status : Nat) (body : String)
deriving DecidableEq, Repr

def Fault.message : Fault → String
  | .base fault => "invalid base url: " ++ fault.message
  | .network fault => "challenge request failed: " ++ fault.message
  | .refused status body => "challenge request returned " ++ toString status ++ ": " ++ body

-- The message of a fault and of its causes, the outermost first.
def Fault.chain [Http.Client] (fault : Fault) : List String :=
  match fault with
  | .base cause => [fault.message, cause.message]
  | .network cause => fault.message :: cause.chain
  | .refused _ _ => [fault.message]

def request (url : Url) : Http.Request :=
  ⟨.get, url, [⟨"content-type", Utf8.bytesOf "application/json"⟩], []⟩

-- The parameters that a reply carries. A refusal is told with its body, as far as it can be read.
def ofResponse [Charset.Decoders] (response : Http.Response) : Except Fault PageParameters :=
  if !Http.isSuccess response.status then
    .error (.refused response.status (response.readText.toOption.getD ""))
  else if !response.complete then .error (.network .badBody)
  else
    match PageParameters.ofBytes response.body with
    | .error _ => .error (.network .badBody)
    | .ok parameters => .ok parameters

def span (base : Url) : Log.Span :=
  ⟨"sigauth::login::challenge", "fetch_challenge", [⟨"base_url", base.description⟩]⟩

def received (base : Url) (parameters : PageParameters) : Log.Entry :=
  ⟨.debug, "sigauth::login::challenge", "received login challenge",
    [⟨"admin_npub", parameters.adminKey⟩], [span base]⟩

structure Report where
  result : Except Fault PageParameters
  requests : List Http.Request
  log : List Log.Entry
  peer : Http.Peer

-- Asks the login page of a site for its parameters.
def fetch [Charset.Decoders] (base : Url) (peer : Http.Peer) : Report :=
  match base.join loginPath with
  | .error fault => ⟨.error (.base fault), [], [], peer⟩
  | .ok url =>
    let exchange := (request url).exchange peer
    match exchange.ending with
    | .error fault => ⟨.error (.network fault), exchange.requests, [], exchange.peer⟩
    | .ok response =>
      match ofResponse response with
      | .error fault => ⟨.error fault, exchange.requests, [], exchange.peer⟩
      | .ok parameters =>
        ⟨.ok parameters, exchange.requests, [received base parameters], exchange.peer⟩

end Challenge

end ChallengeLogin
