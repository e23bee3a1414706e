namespace ChallengeLogin.Json

def hexDigit (n : Nat) : Char :=
  if n < 10 then Char.ofNat (48 + n) else Char.ofNat (87 + n)

-- Quote and backslash are escaped, and the controls below the space: five of them by a letter, the
-- others by number. DEL and all that follows stand for themselves.
def escapeChar (c : Char) : List Char :=
  if c = '"' then ['\\', '"']
  else if c = '\\' then ['\\', '\\']
  else if c.toNat < 0x20 then
    if c = '\x08' then ['\\', 'b']
    else if c = '\x0c' then ['\\', 'f']
    else if c = '\n' then ['\\', 'n']
    else if c = '\r' then ['\\', 'r']
    else if c = '\t' then ['\\', 't']
    else ['\\', 'u', '0', '0', hexDigit (c.toNat / 16), hexDigit (c.toNat % 16)]
  else [c]

def escape (cs : List Char) : List Char :=
  cs.flatMap escapeChar

-- A text as a JSON string.
def quote (s : String) : List Char :=
  '"' :: (escape s.toList ++ ['"'])

def decimal (n : Nat) : List Char :=
  Nat.toDigits 10 n

-- Items with a comma between each two
def commas : List (List Char) → List Char
  | [] => []
  | [item] => item
  | item :: rest => item ++ ',' :: commas rest

def array (items : List (List Char)) : List Char :=
  '[' :: (commas items ++ [']'])

def member (name : String) (value : List Char) : List Char :=
  quote name ++ ':' :: value

-- An object of the given members, each already written.
def object (members : List (List Char)) : List Char :=
  '\x7b' :: (commas members ++ ['\x7d'])

end ChallengeLogin.Json
