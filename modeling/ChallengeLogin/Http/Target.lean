import ChallengeLogin.Text.Utf8

namespace ChallengeLogin.Http.Target

open ChallengeLogin.Text

inductive Fault where
  | empty
  | tooLong
  | badCharacter
  | badAuthority
  | badFormat
  | schemeTooLong
deriving DecidableEq, Repr

def Fault.message : Fault → String
  | .empty => "empty string"
  | .tooLong => "uri too long"
  | .badCharacter => "invalid uri character"
  | .badAuthority => "invalid authority"
  | .badFormat => "invalid format"
  | .schemeTooLong => "scheme too long"

def isAlphanumeric (c : Char) : Bool :=
  ('0' ≤ c && c ≤ '9') || ('a' ≤ c && c ≤ 'z') || ('A' ≤ c && c ≤ 'Z')

section Authority

-- Characters of an authority that have no role of their own in it.
def isPlain (c : Char) : Bool :=
  isAlphanumeric c ||
    ['!', '$', '&', '\'', '(', ')', '*', '+', ',', '-', '.', ';', '=', '_', '~'].contains c

-- Characters that end an authority.
def isEnd (c : Char) : Bool :=
  c == '/' || c == '?' || c == '#'

-- What has been seen of an authority. Colons and percent signs count only since the last `@` or
-- closing bracket.
structure Seen where
  colons : Nat := 0
  opened : Bool := false
  closed : Bool := false
  percent : Bool := false
  atSign : Bool := false

def maxColons : Nat := 8

def Seen.step (seen : Seen) (c : Char) : Except Fault Seen :=
  if c = ':' then
    if maxColons ≤ seen.colons then .error .badAuthority
    else .ok { seen with colons := seen.colons + 1, atSign := false }
  else if c = '[' then
    if seen.percent || seen.opened then .error .badAuthority
    else .ok { seen with opened := true, atSign := false }
  else if c = ']' then
    if !seen.opened || seen.closed then .error .badAuthority
    else .ok { seen with closed := true, colons := 0, percent := false, atSign := false }
  else if c = '@' then .ok { seen with colons := 0, percent := false, atSign := true }
  else if c = '%' then .ok { seen with percent := true, atSign := false }
  else if isPlain c then .ok { seen with atSign := false }
  else .error .badCharacter

def Seen.isComplete (seen : Seen) : Bool :=
  seen.opened == seen.closed && seen.colons ≤ 1 && !seen.atSign && !seen.percent

-- Checks the authority at the front of a text.
def checkAuthority (cs : List Char) : Except Fault Unit := do
  let seen ← (cs.takeWhile (fun c => !isEnd c)).foldlM Seen.step {}
  if seen.isComplete then .ok () else .error .badAuthority

-- The text behind the authority at its front.
def behindAuthority (cs : List Char) : List Char :=
  cs.dropWhile (fun c => !isEnd c)

end Authority

section PathAndQuery

-- Characters that a path may hold besides the question mark and the number sign that end it.
def isPathChar (c : Char) : Bool :=
  let n := c.toNat
  n == 0x21 || n == 0x22 || (0x24 ≤ n && n ≤ 0x3B) || n == 0x3D || (0x40 ≤ n && n ≤ 0x5F) ||
    (0x61 ≤ n && n != 0x60)

-- Characters that a query may hold besides the number sign that ends it.
def isQueryChar (c : Char) : Bool :=
  let n := c.toNat
  n == 0x21 || (0x24 ≤ n && n ≤ 0x3B) || n == 0x3D || 0x3F ≤ n

def checkPathAndQuery (cs : List Char) : Except Fault Unit :=
  let kept := cs.takeWhile (· != '#')
  if (kept.takeWhile (· != '?')).all isPathChar &&
      ((kept.dropWhile (· != '?')).drop 1).all isQueryChar then .ok ()
  else .error .badCharacter

end PathAndQuery

section Scheme

def isSchemeChar (c : Char) : Bool :=
  isAlphanumeric c || c == '+' || c == '-' || c == '.'

def maxScheme : Nat := 64

-- What stands behind a scheme, if the text starts with one.
def behindScheme? (cs : List Char) : Except Fault (Option (List Char)) :=
  let scheme := cs.takeWhile isSchemeChar
  match cs.dropWhile isSchemeChar with
  | ':' :: '/' :: '/' :: rest =>
    if maxScheme < scheme.length then .error .schemeTooLong else .ok (some rest)
  | _ => .ok none

end Scheme

def maxLength : Nat := 65534

-- Checks a text of at least two characters that does not start with a slash.
def checkFull (cs : List Char) : Except Fault Unit := do
  match ← behindScheme? cs with
  | none =>
    checkAuthority cs
    if (behindAuthority cs).isEmpty then .ok () else .error .badFormat
  | some [] => .error .empty
  | some rest =>
    checkAuthority rest
    let behind := behindAuthority rest
    if behind.length = rest.length then .error .badFormat
    else checkPathAndQuery behind

def check (cs : List Char) : Except Fault Unit :=
  if maxLength < (Utf8.encode cs).length then .error .tooLong
  else
    match cs with
    | [] => .error .empty
    | ['/'] | ['*'] => .ok ()
    | [c] => do
      checkAuthority [c]
      if isEnd c then .error .badCharacter else .ok ()
    | '/' :: rest => checkPathAndQuery ('/' :: rest)
    | cs => checkFull cs

-- Holds of the texts that can be asked for.
def isTarget (cs : List Char) : Bool :=
  match check cs with
  | .ok () => true
  | .error _ => false

end ChallengeLogin.Http.Target
