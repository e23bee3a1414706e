import ChallengeLogin.Http.Exchange
import ChallengeLogin.Log.Basic

namespace ChallengeLogin.Session

open ChallengeLogin.Text

-- The cookie that holds a session.
def cookieName : String := "admin-cookie"

-- The session in a cookie header: the value of the pair in front of the first semicolon, if the
-- name is right, without the blanks around it and then without the quotes. Empty values are no
-- session.
def ofCookie? (header : String) : Option String :=
  let pair := trim isBlank (cutAt (· == ';') header.toList).1
  match cutAt (· == '=') pair with
  | (_, none) => none
  | (name, some rest) =>
    let value := trim (· == '"') (trim isBlank rest)
    if trim isBlank name = cookieName.toList && !value.isEmpty then some (String.ofList value)
    else none

-- The cookie text that holds a session.
def cookie (session : String) : String :=
  cookieName ++ "=" ++ session

def logoutPath : String := "/admin/logout"

inductive Fault where
  | base (fault : Url.Fault)
  | network (fault : Http.Fault)
  | refused (url : Url) (status : Nat) (body : String)
deriving DecidableEq, Repr

def Fault.message : Fault → String
  | .base fault => fault.message
  | .network fault => fault.message
  | .refused url status body =>
    url.text ++ " - " ++ Http.statusText status ++ ", " ++ trimBlank body

-- The message of a fault and of its causes. A fault of the client is told as it is, so that its
-- causes come right behind it.
def Fault.chain [Http.Client] : Fault → List String
  | .network cause => cause.chain
  | fault => [fault.message]

def request (url : Url) (session : String) : Http.Request :=
  ⟨.post, url, [⟨"cookie", Utf8.bytesOf (cookie session)⟩, ⟨"hx-request", Utf8.bytesOf "true"⟩], []⟩

def span (base : Url) : Log.Span :=
  ⟨"sigauth::login::session", "logout", [⟨"base_url", base.description⟩]⟩

def closed (base : Url) : Log.Entry :=
  ⟨.debug, "sigauth::login::session", "session cleared", [], [span base]⟩

structure Report where
  result : Except Fault Unit
  requests : List Http.Request
  log : List Log.Entry
  peer : Http.Peer

-- Asks a site to end a session.
def close [Charset.Decoders] (base : Url) (session : String) (peer : Http.Peer) : Report :=
  match base.join logoutPath with
  | .error fault => ⟨.error (.base fault), [], [], peer⟩
  | .ok url =>
    let exchange := (request url session).exchange peer
    match exchange.ending with
    | .error fault => ⟨.error (.network fault), exchange.requests, [], exchange.peer⟩
    | .ok response =>
      if Http.isSuccess response.status then
        ⟨.ok (), exchange.requests, [closed base], exchange.peer⟩
      else
        let body := response.readText.toOption.getD ""
        ⟨.error (.refused url response.status body), exchange.requests, [], exchange.peer⟩

end ChallengeLogin.Session
