import ChallengeLogin.Url.Ipv6
import ChallengeLogin.Url.Percent

namespace ChallengeLogin.Url

inductive Host where
  | empty
  | domain (name : String)
  | ipv4 (address : Nat)
  | ipv6 (groups : List Nat)
deriving DecidableEq, Repr

def Host.text : Host → List Char
  | .empty => []
  | .domain name => name.toList
  | .ipv4 address => Ipv4.toText address
  | .ipv6 groups => '[' :: (Ipv6.toText groups ++ [']'])

inductive Path where
  | opaqueText (text : String)
  | segments (list : List String)
deriving DecidableEq, Repr

-- Each segment with a slash in front of it
def Path.text : Path → List Char
  | .opaqueText t => t.toList
  | .segments list => list.flatMap (fun s => '/' :: s.toList)

inductive Fault where
  | emptyHost
  | invalidPort
  | invalidIpv4
  | invalidIpv6
  | invalidDomain
  | invalidHostCharacter
  | relativeWithoutBase
  | relativeToOpaqueBase
deriving DecidableEq, Repr

def Fault.message : Fault → String
  | .emptyHost => "empty host"
  | .invalidPort => "invalid port number"
  | .invalidIpv4 => "invalid IPv4 address"
  | .invalidIpv6 => "invalid IPv6 address"
  | .invalidDomain => "invalid international domain name"
  | .invalidHostCharacter => "invalid domain character"
  | .relativeWithoutBase => "relative URL without a base"
  | .relativeToOpaqueBase => "relative URL with a cannot-be-a-base base"

-- The port that a scheme implies.
def defaultPort? (scheme : String) : Option Nat :=
  if scheme = "http" || scheme = "ws" then some 80
  else if scheme = "https" || scheme = "wss" then some 443
  else if scheme = "ftp" then some 21
  else none

-- Schemes whose URLs always have an authority and a path of segments.
def isSpecial (scheme : String) : Bool :=
  (defaultPort? scheme).isSome || scheme = "file"

end ChallengeLogin.Url

namespace ChallengeLogin

open ChallengeLogin.Url

structure Url where
  scheme : String
  username : String := ""
  password : Option String := none
  host : Option Host := none
  port : Option Nat := none
  path : Path
  query : Option String := none
  fragment : Option String := none
deriving DecidableEq, Repr

namespace Url

-- Holds of a URL that names a host.
def hasHost (url : Url) : Bool :=
  match url.host with
  | none | some .empty => false
  | some _ => true

-- The port, given or implied.
def effectivePort? (url : Url) : Option Nat :=
  url.port.or (defaultPort? url.scheme)

def userinfoText (url : Url) : List Char :=
  match url.password with
  | some password => url.username.toList ++ ':' :: password.toList ++ ['@']
  | none => if url.username = "" then [] else url.username.toList ++ ['@']

def portText (url : Url) : List Char :=
  match url.port with
  | some port => ':' :: Nat.toDigits 10 port
  | none => []

-- Without an authority, a path that starts with two slashes would be read as one
def authorityText (url : Url) : List Char :=
  match url.host, url.path with
  | some host, _ => '/' :: '/' :: url.userinfoText ++ host.text ++ url.portText
  | none, .segments ("" :: _ :: _) => ['/', '.']
  | none, _ => []

def queryText (url : Url) : List Char :=
  match url.query with
  | some query => '?' :: query.toList
  | none => []

def fragmentText (url : Url) : List Char :=
  match url.fragment with
  | some fragment => '#' :: fragment.toList
  | none => []

-- The text of a URL.
def text (url : Url) : String :=
  String.ofList
    (url.scheme.toList ++ ':' :: url.authorityText ++ url.path.text ++ url.queryText ++
      url.fragmentText)

section Description

-- The parts of a URL hold no other characters that would need a backslash.
def quoted (text : String) : String :=
  "\"" ++ String.ofList (text.toList.flatMap fun c =>
    if c = '"' || c = '\\' then ['\\', c] else [c]) ++ "\""

def optional : Option String → String
  | none => "None"
  | some text => "Some(" ++ text ++ ")"

def Host.description : Host → String
  | .empty => "Domain(\"\")"
  | .domain name => "Domain(" ++ quoted name ++ ")"
  | .ipv4 address => "Ipv4(" ++ String.ofList (Ipv4.toText address) ++ ")"
  | .ipv6 groups => "Ipv6(" ++ String.ofList (Ipv6.toText groups) ++ ")"

def Path.isOpaque : Path → Bool
  | .opaqueText _ => true
  | .segments _ => false

-- A URL by its parts, as it is logged.
def description (url : Url) : String :=
  "Url \x7b scheme: " ++ quoted url.scheme ++
    ", cannot_be_a_base: " ++ toString url.path.isOpaque ++
    ", username: " ++ quoted url.username ++
    ", password: " ++ optional (url.password.map quoted) ++
    ", host: " ++ optional (url.host.map Host.description) ++
    ", port: " ++ optional (url.port.map toString) ++
    ", path: " ++ quoted (String.ofList url.path.text) ++
    ", query: " ++ optional (url.query.map quoted) ++
    ", fragment: " ++ optional (url.fragment.map quoted) ++ " \x7d"

end Description

end Url

end ChallengeLogin
