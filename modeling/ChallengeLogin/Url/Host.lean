import ChallengeLogin.Url.Basic
import ChallengeLogin.Url.Domain.Ascii

namespace ChallengeLogin.Url.Host

open ChallengeLogin.Text

-- An address in brackets, where the text starts with one
def bracketed? (cs : List Char) : Option (Except Fault Host) :=
  match cs with
  | '[' :: rest =>
    some <|
      if rest.getLast? = some ']' then
        match Ipv6.parse? rest.dropLast with
        | some groups => .ok (.ipv6 groups)
        | none => .error .invalidIpv6
      else .error .invalidIpv6
  | _ => none

-- The host of a special URL.
def ofText (cs : List Char) : Except Fault Host :=
  match bracketed? cs with
  | some answer => answer
  | none =>
    match Domain.toAscii? (Percent.decode (Utf8.encode cs)) with
    | none => .error .invalidDomain
    | some [] => .error .emptyHost
    | some name =>
      if Ipv4.endsInNumber name then
        match Ipv4.parse? name with
        | some address => .ok (.ipv4 address)
        | none => .error .invalidIpv4
      else .ok (.domain (String.ofList name))

-- Characters that the host of a URL that is not special may not hold
def isForbidden (c : Char) : Bool :=
  ['\x00', '\t', '\n', '\r', ' ', '#', '/', ':', '<', '>', '?', '@', '[', '\\', ']', '^',
    '|'].contains c

-- The host of a URL that is not special.
def ofOpaqueText (cs : List Char) : Except Fault Host :=
  match bracketed? cs with
  | some answer => answer
  | none =>
    if cs.isEmpty then .ok .empty
    else if cs.any isForbidden then .error .invalidHostCharacter
    else .ok (.domain (String.ofList (Percent.encode Percent.controls cs)))

end ChallengeLogin.Url.Host
