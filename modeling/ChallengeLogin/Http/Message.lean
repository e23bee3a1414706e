import ChallengeLogin.Text.Charset.Basic
import ChallengeLogin.Url.Basic

namespace ChallengeLogin.Http

open ChallengeLogin.Text

inductive Method where
  | get
  | post
deriving DecidableEq, Repr

def Method.name : Method → String
  | .get => "GET"
  | .post => "POST"

structure Header where
  name : String
  value : Bytes
deriving DecidableEq, Repr

-- A request, with the headers that are set on it and not those that the client adds by itself, such
-- as the host and the length of the body
structure Request where
  method : Method
  url : Url
  headers : List Header
  body : Bytes
deriving DecidableEq, Repr

structure Response where
  status : Nat
  headers : List Header
  body : Bytes
  -- whether all of the body that was announced has come
  complete : Bool := true
deriving DecidableEq, Repr

section Headers

def lowerName (name : String) : List Char :=
  name.toList.map Charset.lower

def sameName (a b : String) : Bool :=
  lowerName a == lowerName b

-- All values of a header, in order.
def valuesOf (name : String) (headers : List Header) : List Bytes :=
  (headers.filter (fun h => sameName h.name name)).map (·.value)

-- The first value of a header.
def valueOf? (name : String) (headers : List Header) : Option Bytes :=
  (valuesOf name headers).head?

def without (name : String) (headers : List Header) : List Header :=
  headers.filter (fun h => !sameName h.name name)

def isVisible (b : UInt8) : Bool :=
  (0x20 ≤ b.toNat && b.toNat ≤ 0x7E) || b.toNat == 0x09

-- A header value as text.
def visibleText? (value : Bytes) : Option String :=
  if value.all isVisible then some (String.ofList (value.map (fun b => Char.ofNat b.toNat)))
  else none

-- Holds of the values that a request may carry: no controls but the tab.
def isSendableValue (value : Bytes) : Bool :=
  value.all (fun b => (0x20 ≤ b.toNat && b.toNat != 0x7F) || b.toNat == 0x09)

end Headers

def isSuccess (status : Nat) : Bool :=
  200 ≤ status && status < 300

-- The standard phrase of a status.
def reason? (status : Nat) : Option String :=
  match status with
  | 100 => some "Continue"
  | 101 => some "Switching Protocols"
  | 102 => some "Processing"
  | 103 => some "Early Hints"
  | 200 => some "OK"
  | 201 => some "Created"
  | 202 => some "Accepted"
  | 203 => some "Non Authoritative Information"
  | 204 => some "No Content"
  | 205 => some "Reset Content"
  | 206 => some "Partial Content"
  | 207 => some "Multi-Status"
  | 208 => some "Already Reported"
  | 226 => some "IM Used"
  | 300 => some "Multiple Choices"
  | 301 => some "Moved Permanently"
  | 302 => some "Found"
  | 303 => some "See Other"
  | 304 => some "Not Modified"
  | 305 => some "Use Proxy"
  | 307 => some "Temporary Redirect"
  | 308 => some "Permanent Redirect"
  | 400 => some "Bad Request"
  | 401 => some "Unauthorized"
  | 402 => some "Payment Required"
  | 403 => some "Forbidden"
  | 404 => some "Not Found"
  | 405 => some "Method Not Allowed"
  | 406 => some "Not Acceptable"
  | 407 => some "Proxy Authentication Required"
  | 408 => some "Request Timeout"
  | 409 => some "Conflict"
  | 410 => some "Gone"
  | 411 => some "Length Required"
  | 412 => some "Precondition Failed"
  | 413 => some "Payload Too Large"
  | 414 => some "URI Too Long"
  | 415 => some "Unsupported Media Type"
  | 416 => some "Range Not Satisfiable"
  | 417 => some "Expectation Failed"
  | 418 => some "I'm a teapot"
  | 421 => some "Misdirected Request"
  | 422 => some "Unprocessable Entity"
  | 423 => some "Locked"
  | 424 => some "Failed Dependency"
  | 425 => some "Too Early"
  | 426 => some "Upgrade Required"
  | 428 => some "Precondition Required"
  | 429 => some "Too Many Requests"
  | 431 => some "Request Header Fields Too Large"
  | 451 => some "Unavailable For Legal Reasons"
  | 500 => some "Internal Server Error"
  | 501 => some "Not Implemented"
  | 502 => some "Bad Gateway"
  | 503 => some "Service Unavailable"
  | 504 => some "Gateway Timeout"
  | 505 => some "HTTP Version Not Supported"
  | 506 => some "Variant Also Negotiates"
  | 507 => some "Insufficient Storage"
  | 508 => some "Loop Detected"
  | 510 => some "Not Extended"
  | 511 => some "Network Authentication Required"
  | _ => none

-- A status with its phrase.
def statusText (status : Nat) : String :=
  toString status ++ " " ++ (reason? status).getD "<unknown status code>"

end ChallengeLogin.Http
