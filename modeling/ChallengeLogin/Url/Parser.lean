import ChallengeLogin.Text.Blank
import ChallengeLogin.Url.Host

namespace ChallengeLogin.Url

open ChallengeLogin.Text

-- The text without controls and spaces around it and without tabs and line ends anywhere.
def cleaned (cs : List Char) : List Char :=
  (trim (·.toNat ≤ 0x20) cs).filter (fun c => c != '\t' && c != '\n' && c != '\r')

section Scheme

def isLetter (c : Char) : Bool :=
  (65 ≤ c.toNat && c.toNat ≤ 90) || (97 ≤ c.toNat && c.toNat ≤ 122)

def isSchemeChar (c : Char) : Bool :=
  isLetter c || (48 ≤ c.toNat && c.toNat ≤ 57) || c = '+' || c = '-' || c = '.'

def lower (c : Char) : Char :=
  if 65 ≤ c.toNat && c.toNat ≤ 90 then Char.ofNat (c.toNat + 32) else c

-- The scheme in lower case, and what follows its colon.
def splitScheme? (cs : List Char) : Option (String × List Char) :=
  match cs.dropWhile isSchemeChar with
  | ':' :: rest =>
    if (cs.head?.map isLetter).getD false then
      some (String.ofList ((cs.takeWhile isSchemeChar).map lower), rest)
    else none
  | _ => none

end Scheme

section Path

def isSlash (c : Char) : Bool :=
  c = '/' || c = '\\'

-- What separates the segments of a path
def isSeparator (special : Bool) (c : Char) : Bool :=
  c = '/' || (special && c = '\\')

def isPathEnd (c : Char) : Bool :=
  c = '?' || c = '#'

def isDot (cs : List Char) : Bool :=
  cs = ['.'] || cs.map lower = ['%', '2', 'e']

def isDoubleDot (cs : List Char) : Bool :=
  let l := cs.map lower
  l = ['.', '.'] || l = ['.', '%', '2', 'e'] || l = ['%', '2', 'e', '.'] ||
    l = ['%', '2', 'e', '%', '2', 'e']

-- A letter and a colon or bar, as the first segment of a file path
def isDriveLetter (cs : List Char) : Bool :=
  match cs with
  | [c, d] => isLetter c && (d = ':' || d = '|')
  | _ => false

def isNormalDriveLetter (s : String) : Bool :=
  match s.toList with
  | [c, ':'] => isLetter c
  | _ => false

-- The segments without the last one. The drive letter of a file path stays.
def shorten (file : Bool) (segments : List String) : List String :=
  match segments with
  | [s] => if file && isNormalDriveLetter s then [s] else []
  | segments => segments.dropLast

def encodeSegment (file : Bool) (before : List String) (cs : List Char) : String :=
  match cs with
  | [c, '|'] =>
    if file && before.isEmpty && isLetter c then String.ofList [c, ':']
    else String.ofList (Percent.encode Percent.pathSet cs)
  | cs => String.ofList (Percent.encode Percent.pathSet cs)

-- Appends raw segments: a dot is left out, a double dot takes the last segment away, and either of
-- them at the end leaves an empty segment.
def appendSegments (file : Bool) (before : List String) : List (List Char) → List String
  | [] => before
  | [s] =>
    if isDoubleDot s then shorten file before ++ [""]
    else if isDot s then before ++ [""]
    else before ++ [encodeSegment file before s]
  | s :: rest =>
    if isDoubleDot s then appendSegments file (shorten file before) rest
    else if isDot s then appendSegments file before rest
    else appendSegments file (before ++ [encodeSegment file before s]) rest

-- Empty segments at the head of a file path are left out
def dropEmptyHead : List String → List String
  | "" :: s :: rest => dropEmptyHead (s :: rest)
  | segments => segments

def finishSegments (file : Bool) (segments : List String) : List String :=
  if file then dropEmptyHead segments else segments

-- The raw segments of a path text whose leading slash is gone.
def rawSegments (special : Bool) (cs : List Char) : List (List Char) :=
  cs.splitOnP (isSeparator special)

end Path

section Tail

-- The query of a text that starts behind the path, if it has one.
def queryOf (special : Bool) (cs : List Char) : Option String :=
  match cs with
  | '?' :: rest =>
    some (String.ofList
      (Percent.encode (Percent.querySet special) (rest.takeWhile (· != '#'))))
  | _ => none

-- The fragment, which is all behind the first number sign.
def fragmentOf (cs : List Char) : Option String :=
  match cs.dropWhile (· != '#') with
  | '#' :: rest => some (String.ofList (Percent.encode Percent.fragmentSet rest))
  | _ => none

end Tail

section Authority

def isAuthorityEnd (special : Bool) (c : Char) : Bool :=
  c = '/' || c = '?' || c = '#' || (special && c = '\\')

-- User name and password, both encoded
structure Userinfo where
  username : String
  password : Option String

def Userinfo.ofText (cs : List Char) : Userinfo :=
  let encode (cs : List Char) := String.ofList (Percent.encode Percent.userinfoSet cs)
  match cutAt (· == ':') cs with
  | (name, some (c :: rest)) => ⟨encode name, some (encode (c :: rest))⟩
  | (name, _) => ⟨encode name, none⟩

-- What stands before the last at sign of the authority, if there is one, and all that follows.
def splitUserinfo (special : Bool) (cs : List Char) : Option (List Char) × List Char :=
  let authority := cs.takeWhile (fun c => !isAuthorityEnd special c)
  let behind := authority.reverse.takeWhile (· != '@')
  if behind.length = authority.length then (none, cs)
  else
    let before := authority.length - behind.length - 1
    (some (authority.take before), cs.drop (before + 1))

-- Length of the host at the head of a text. A colon ends it only outside brackets.
def hostLength (special : Bool) (inBrackets : Bool) : List Char → Nat
  | [] => 0
  | c :: rest =>
    if isAuthorityEnd special c || (c = ':' && !inBrackets) then 0
    else
      let inBrackets := if c = '[' then true else if c = ']' then false else inBrackets
      hostLength special inBrackets rest + 1

def portDigits (cs : List Char) : List Char :=
  cs.takeWhile (fun c => 48 ≤ c.toNat && c.toNat ≤ 57)

-- The port behind a colon. No digits, or the port that the scheme implies, is no port.
def portOf (scheme : String) (cs : List Char) : Except Fault (Option Nat × List Char) :=
  let digits := portDigits cs
  let rest := cs.drop digits.length
  let port := Nat.ofDigitChars 10 digits 0
  if 65535 < port then .error .invalidPort
  else if (rest.head?.map (fun c => isSlash c || isPathEnd c)).getD true then
    .ok (if digits.isEmpty || some port = defaultPort? scheme then none else some port, rest)
  else .error .invalidPort

-- Host and port, and what follows them. Only a URL that is not special may have an empty host, and
-- then neither a user nor a port.
def hostAndPort (scheme : String) (hasUser : Bool) (cs : List Char) :
    Except Fault (Host × Option Nat × List Char) :=
  let special := isSpecial scheme
  let n := hostLength special false cs
  let hostText := cs.take n
  let rest := cs.drop n
  if hostText.isEmpty && (special || hasUser || rest.head? = some ':') then .error .emptyHost
  else
    match if special then Host.ofText hostText else Host.ofOpaqueText hostText with
    | .error fault => .error fault
    | .ok host =>
      match rest with
      | ':' :: rest' =>
        match portOf scheme rest' with
        | .error fault => .error fault
        | .ok (port, rest'') => .ok (host, port, rest'')
      | rest => .ok (host, none, rest)

-- The segments of a path that follows an authority.
def pathBehindAuthority (special : Bool) (cs : List Char) : List String :=
  match cs.takeWhile (fun c => !isPathEnd c) with
  | [] => if special then [""] else []
  | c :: rest =>
    let raw := if isSeparator special c then rest else c :: rest
    appendSegments false [] (rawSegments special raw)

-- A URL with an authority, from behind its slashes.
def withAuthority (scheme : String) (cs : List Char) : Except Fault Url :=
  let special := isSpecial scheme
  let (userText, rest) := splitUserinfo special cs
  let emptyUser := userText = some []
  if emptyUser && (rest.head?.map (isAuthorityEnd special)).getD false then .error .emptyHost
  else
    let user := Userinfo.ofText (userText.getD [])
    match hostAndPort scheme (user.username ≠ "" || user.password.isSome) rest with
    | .error fault => .error fault
    | .ok (host, port, rest') =>
      let behind := rest'.dropWhile (fun c => !isPathEnd c)
      .ok {
        scheme, username := user.username, password := user.password, host := some host, port
        path := .segments (pathBehindAuthority special rest')
        query := queryOf special behind
        fragment := fragmentOf behind }

end Authority

section Forms

-- A URL with neither an authority nor a special scheme
def withoutAuthority (scheme : String) (cs : List Char) : Url :=
  let pathText := cs.takeWhile (fun c => !isPathEnd c)
  let behind := cs.dropWhile (fun c => !isPathEnd c)
  { scheme
    path :=
      match pathText with
      | '/' :: rest => .segments (appendSegments false [] (rawSegments false rest))
      | text => .opaqueText (String.ofList (Percent.encode Percent.controls text))
    query := queryOf false behind
    fragment := fragmentOf behind }

-- A file URL over the segments that are kept
def fileUrl (host : Host) (kept : List String) (cs : List Char) : Url :=
  let pathText := cs.takeWhile (fun c => !isPathEnd c)
  let behind := cs.dropWhile (fun c => !isPathEnd c)
  let raw :=
    match pathText with
    | c :: rest => if isSlash c then rest else c :: rest
    | [] => []
  let segments := appendSegments true kept (rawSegments true raw)
  let host := if (segments.head?.map isNormalDriveLetter).getD false then .empty else host
  { scheme := "file", host := some host
    path := .segments (finishSegments true segments)
    query := queryOf true behind
    fragment := fragmentOf behind }

-- A file URL from behind its two slashes. `localhost` and a drive letter are no host.
def fileWithHost (cs : List Char) : Except Fault Url :=
  let hostText := cs.takeWhile (fun c => !(isSlash c || isPathEnd c))
  if hostText.isEmpty || isDriveLetter hostText then .ok (fileUrl .empty [] cs)
  else
    match Host.ofText hostText with
    | .error fault => .error fault
    | .ok host =>
      let host := if host = .domain "localhost" then .empty else host
      .ok (fileUrl host [] (cs.drop hostText.length))

def segmentsOf (path : Path) : List String :=
  match path with
  | .segments list => list
  | .opaqueText _ => []

-- A reference relative to a base with a path of segments.
def relative (base : Url) (cs : List Char) : Except Fault Url :=
  let special := isSpecial base.scheme
  let behind := cs.dropWhile (fun c => !isPathEnd c)
  match cs with
  | [] => .ok { base with fragment := none }
  | '?' :: _ => .ok { base with query := queryOf special cs, fragment := fragmentOf cs }
  | '#' :: _ => .ok { base with fragment := fragmentOf cs }
  | c :: rest =>
    if isSlash c then
      if (rest.head?.map isSlash).getD false then
        withAuthority base.scheme (if special then rest.dropWhile isSlash else rest.drop 1)
      else
        .ok { base with
          path := .segments
            (appendSegments false [] (rawSegments special (rest.takeWhile (fun c => !isPathEnd c))))
          query := queryOf special behind
          fragment := fragmentOf behind }
    else
      .ok { base with
        path := .segments
          (appendSegments false (segmentsOf base.path).dropLast
            (rawSegments special (cs.takeWhile (fun c => !isPathEnd c))))
        query := queryOf special behind
        fragment := fragmentOf behind }

-- A reference relative to a file URL.
def relativeToFile (base : Url) (cs : List Char) : Except Fault Url :=
  let host := base.host.getD .empty
  let behind := cs.dropWhile (fun c => !isPathEnd c)
  match cs with
  | [] => .ok { base with fragment := none }
  | '?' :: _ => .ok { base with query := queryOf true cs, fragment := fragmentOf cs }
  | '#' :: _ => .ok { base with fragment := fragmentOf cs }
  | c :: rest =>
    if isSlash c then
      if (rest.head?.map isSlash).getD false then fileWithHost (rest.drop 1)
      else
        let drive := (segmentsOf base.path).take 1 |>.filter isNormalDriveLetter
        if isDriveLetter ((rest.takeWhile (fun c => !(isSlash c || isPathEnd c)))) then
          .ok (fileUrl .empty [] cs)
        else .ok (fileUrl (if drive.isEmpty then host else .empty) drive cs)
    else if isDriveLetter (cs.takeWhile (fun c => !(isSlash c || isPathEnd c))) then
      .ok (fileUrl .empty [] cs)
    else
      .ok { base with
        path := .segments (finishSegments true
          (appendSegments true (shorten true (segmentsOf base.path))
            (rawSegments true (cs.takeWhile (fun c => !isPathEnd c)))))
        query := queryOf true behind
        fragment := fragmentOf behind }

-- A text that has a scheme. `base` counts only where the scheme is its own.
def withScheme (base : Option Url) (scheme : String) (cs : List Char) : Except Fault Url :=
  let sameBase := base.filter (·.scheme = scheme)
  if scheme = "file" then
    match sameBase with
    | some b => relativeToFile b cs
    | none =>
      match cs with
      | '/' :: '/' :: rest | '/' :: '\\' :: rest | '\\' :: '/' :: rest | '\\' :: '\\' :: rest =>
        fileWithHost rest
      | cs => .ok (fileUrl .empty [] cs)
  else if isSpecial scheme then
    let slashes := (cs.takeWhile isSlash).length
    match sameBase with
    | some b => if slashes < 2 then relative b cs else withAuthority scheme (cs.drop slashes)
    | none => withAuthority scheme (cs.drop slashes)
  else
    match cs with
    | '/' :: '/' :: rest => withAuthority scheme rest
    | cs => .ok (withoutAuthority scheme cs)

end Forms

-- Reads a URL that stands alone.
def parse (text : String) : Except Fault Url :=
  let cs := cleaned text.toList
  match splitScheme? cs with
  | some (scheme, rest) => withScheme none scheme rest
  | none => .error .relativeWithoutBase

def hasOpaquePath (url : Url) : Bool :=
  match url.path with
  | .opaqueText _ => true
  | .segments _ => false

-- Reads a reference relative to a base.
def join (base : Url) (reference : String) : Except Fault Url :=
  let cs := cleaned reference.toList
  match splitScheme? cs with
  | some (scheme, rest) => withScheme (some base) scheme rest
  | none =>
    if cs.head? = some '#' then .ok { base with fragment := fragmentOf cs }
    else if hasOpaquePath base then .error .relativeToOpaqueBase
    else if base.scheme = "file" then relativeToFile base cs
    else relative base cs

end ChallengeLogin.Url
