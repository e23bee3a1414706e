import ChallengeLogin.Http.MediaType
import ChallengeLogin.Http.Target
import ChallengeLogin.Text.Base64
import ChallengeLogin.Url.Parser

namespace ChallengeLogin.Http

open ChallengeLogin.Text

-- Why there is no reply to work with
inductive Fault where
  -- nothing came back from the URL
  | noReply (url : Url)
  -- the URL is the last one that was asked for
  | tooManyRedirects (url : Url)
  | badUrl (url : Url)
  | badHeader
  | badBody
deriving DecidableEq, Repr

def Fault.message : Fault → String
  | .noReply url => "error sending request for url (" ++ url.text ++ ")"
  | .tooManyRedirects url => "error following redirect for url (" ++ url.text ++ ")"
  | .badUrl url => "builder error for url (" ++ url.text ++ ")"
  | .badHeader => "builder error"
  | .badBody => "error decoding response body"

-- What the client library brings along: the decoders, and what it tells of a fault beyond its
-- message.
class Client extends Charset.Decoders where
  -- the messages of what has caused the fault, the outermost first
  causes : Fault → List String
  -- the fault as it is logged
  describe : Fault → String

-- The message of a fault and of its causes.
def Fault.chain [Client] (fault : Fault) : List String :=
  fault.message :: Client.causes fault

-- A client that tells no more of a fault than its message.
@[reducible] def Client.terse (decoders : Charset.Decoders) : Client :=
  { decoders with
    causes := fun _ => []
    describe := Fault.message }

-- The least that a client can bring along.
@[reducible] def Client.plain : Client :=
  .terse .ascii

-- The most header lines of a reply that can be read
def maxHeaders : Nat := 100

-- Holds of the statuses whose replies only say that the reply is still to come. The client reads
-- past them.
def isInterim (status : Nat) : Bool :=
  100 ≤ status && status < 200 && status != 101

-- Holds of the replies that answer a request.
def Response.isFinal (response : Response) : Bool :=
  response.headers.length ≤ maxHeaders && !isInterim response.status

-- What comes of one request.
inductive Answer where
  | reply (response : Response) (final : response.isFinal := by decide)
  -- the request has been read, and the connection ends without a final reply that can be read
  | dropped
deriving DecidableEq, Repr

-- A peer and the answers that it still has. It drops every request beyond them. Nothing at all gets
-- through to a peer that is out of reach.
structure Peer where
  answers : List Answer
  reachable : Bool := true
deriving DecidableEq, Repr

-- The peer that nothing gets through to.
def Peer.outOfReach : Peer :=
  ⟨[], false⟩

def Peer.next (peer : Peer) : Answer × Peer :=
  match peer.answers with
  | [] => (.dropped, peer)
  | answer :: rest => (answer, { peer with answers := rest })

section Wire

def isBlankByte (b : UInt8) : Bool :=
  b == 0x20 || b == 0x09

-- A header as it arrives, without the blanks around its value.
def Header.received (header : Header) : Header :=
  { header with value := trim isBlankByte header.value }

-- A request as it arrives.
def Request.received (request : Request) : Request :=
  { request with
    url := { request.url with username := "", password := none, fragment := none }
    headers := request.headers.map Header.received }

-- Holds of the statuses whose replies have no body.
def hasNoBody (status : Nat) : Bool :=
  status == 101 || status == 204 || status == 304

-- A reply as it arrives.
def Response.received (response : Response) : Response :=
  let bodiless := hasNoBody response.status
  { response with
    headers := response.headers.map Header.received
    body := if bodiless then [] else response.body
    complete := bodiless || response.complete }

end Wire

section Preparing

def userAgent : Header :=
  ⟨"user-agent", Utf8.bytesOf "sigauth/0.1.0"⟩

def isWeb (url : Url) : Bool :=
  url.scheme = "http" || url.scheme = "https"

def decodedText? (text : String) : Option (List Char) :=
  Utf8.decode? (Url.Percent.decode (Utf8.bytesOf text))

-- The name and password that a URL carries, decoded and joined by a colon. A password that is no
-- text counts as absent.
def credentials? (url : Url) : Option (List Char) := do
  let username ← decodedText? url.username
  let password := url.password.bind decodedText?
  if username.isEmpty && password.isNone then none
  else some (username ++ ':' :: password.getD [])

-- Moves name and password from the URL of a request into a header.
def Request.authorized (request : Request) : Request :=
  match credentials? request.url with
  | none => request
  | some text =>
    { request with
      url := { request.url with username := "", password := none }
      headers := request.headers ++
        [⟨"authorization",
          Utf8.bytesOf "Basic " ++ Utf8.encode (Base64.encode (Utf8.encode text))⟩] }

-- The request that is sent, or the fault that keeps it from being sent.
def Request.prepared (request : Request) : Except Fault Request :=
  if !request.url.hasHost then .error (.badUrl request.url)
  else
    let ready := request.authorized
    if !request.headers.all (fun h => isSendableValue h.value) then .error .badHeader
    else if !isWeb ready.url || !Target.isTarget ready.url.text.toList then
      .error (.badUrl ready.url)
    else .ok { ready with headers := ready.headers ++ [userAgent] }

end Preparing

section Redirects

-- The URL that a reply points to, if it can be read and asked for.
def location? (url : Url) (response : Response) : Option Url := do
  let text ← Utf8.decode? (← valueOf? "location" response.headers)
  match url.join (String.ofList text) with
  | .error _ => none
  | .ok target =>
    if Target.isTarget target.text.toList then some target else none

def contentHeaders : List String :=
  ["transfer-encoding", "content-encoding", "content-type", "content-length"]

def credentialHeaders : List String :=
  ["authorization", "cookie"]

def withoutAll (names : List String) (headers : List Header) : List Header :=
  names.foldl (fun headers name => without name headers) headers

-- Whether two URLs lead to the same place, by host and port.
def samePlace (a b : Url) : Bool :=
  a.host == b.host && a.effectivePort? == b.effectivePort?

-- The request with the method that a redirect of this status asks for.
def Request.redirected? (request : Request) (status : Nat) : Option Request :=
  if status = 301 ∨ status = 302 ∨ status = 303 then
    some { request with
      method := .get, headers := withoutAll contentHeaders request.headers, body := [] }
  else if status = 307 ∨ status = 308 then some request
  else none

-- The request moved to another URL. Credentials stay behind where host or port change.
def Request.moved (request : Request) (url : Url) : Request :=
  { request with
    url := url
    headers :=
      if samePlace request.url url then request.headers
      else withoutAll credentialHeaders request.headers }

-- The request that a reply redirects to.
def Request.redirect? (request : Request) (response : Response) : Option Request := do
  let again ← request.redirected? response.status
  let url ← location? request.url response
  return again.moved url

end Redirects

-- How an exchange ended, what the peer received, and the peer as it is left.
structure Exchange where
  ending : Except Fault Response
  requests : List Request
  peer : Peer

def maxRedirects : Nat := 10

-- Sends a request and follows at most `hops` redirects.
def follow (hops : Nat) (request : Request) (peer : Peer) : Exchange :=
  if !peer.reachable then ⟨.error (.noReply request.url), [], peer⟩
  else
    match peer.next with
    | (.dropped, left) => ⟨.error (.noReply request.url), [request.received], left⟩
    | (.reply response _, left) =>
      match request.redirect? response.received with
      | none => ⟨.ok response.received, [request.received], left⟩
      | some onward =>
        match hops with
        | 0 => ⟨.error (.tooManyRedirects request.url), [request.received], left⟩
        | hops + 1 =>
          if !isWeb onward.url then ⟨.error (.badUrl onward.url), [request.received], left⟩
          else
            let rest := follow hops onward left
            { rest with requests := request.received :: rest.requests }

-- Sends a request and follows redirects until a reply is none, or none can be followed.
def Request.exchange (request : Request) (peer : Peer) : Exchange :=
  match request.prepared with
  | .error fault => ⟨.error fault, [], peer⟩
  | .ok ready => follow maxRedirects ready peer

-- The body of a reply as text, once all of it has come.
def Response.readText [Charset.Decoders] (response : Response) : Except Fault String :=
  if response.complete then .ok response.text else .error .badBody

end ChallengeLogin.Http
