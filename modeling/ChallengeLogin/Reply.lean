import ChallengeLogin.Session

namespace ChallengeLogin

open ChallengeLogin.Text

-- What counts in the reply to a login
structure Reply where
  status : Nat
  target : Option String
  session : Option String
  body : String
deriving DecidableEq, Repr

inductive Decision where
  | navigate (path : String) (session : Option String)
  | patch (status : Nat) (target html : String)
  | unhandled (status : Nat) (body : String)
deriving DecidableEq, Repr

-- The header that names a region.
def retargetHeader : String := "hx-retarget"

def dashboardPath : String := "/admin"

namespace Reply

-- The region that a reply names: the first value of the header, if it can be read and is not blank.
def targetOf (headers : List Http.Header) : Option String :=
  ((Http.valueOf? retargetHeader headers).bind Http.visibleText?).filter (!allBlank ·)

-- The first session that the headers of a reply hold.
def sessionOf (headers : List Http.Header) : Option String :=
  ((Http.valuesOf "set-cookie" headers).filterMap Http.visibleText?).findSome? Session.ofCookie?

-- Reads a reply. All of its body must have come.
def ofResponse [Charset.Decoders] (response : Http.Response) : Except Http.Fault Reply :=
  response.readText.map fun body =>
    ⟨response.status, targetOf response.headers, sessionOf response.headers, body⟩

-- Holds of replies whose first region header cannot be read.
def hasUnreadableTarget (headers : List Http.Header) : Bool :=
  match Http.valueOf? retargetHeader headers with
  | none => false
  | some value => (Http.visibleText? value).isNone

-- What a reply does to the page.
def decision (reply : Reply) : Decision :=
  match reply.target.filter (!allBlank ·) with
  | some target => .patch reply.status target reply.body
  | none =>
    if Http.isSuccess reply.status then .navigate dashboardPath reply.session
    else .unhandled reply.status reply.body

end Reply

end ChallengeLogin
