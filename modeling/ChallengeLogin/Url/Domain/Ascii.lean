import ChallengeLogin.Text.Utf8
import ChallengeLogin.Url.Domain.Mapping
import ChallengeLogin.Url.Domain.Properties
import ChallengeLogin.Url.Domain.Punycode

namespace ChallengeLogin.Url.Domain

open ChallengeLogin.Text ChallengeLogin.Text.Table

-- ASCII characters that no domain name of a URL may hold.
def isForbidden (c : Char) : Bool :=
  c.toNat ≤ 0x20 || c.toNat == 0x7F ||
    ['%', '#', '/', ':', '<', '>', '?', '@', '[', '\\', ']', '^', '|'].contains c

def isAscii (c : Char) : Bool :=
  c.toNat < 128

-- A label as it is to be written, and the characters that it stands for
structure Label where
  written : List Char
  spelled : List Char

-- The rules that hold for labels of characters above ASCII
def isWellFormed (cs : List Char) : Bool :=
  !(cs.head?.map isMark).getD false && cs.all isValid && joinersFit [] cs && !cs.any isForbidden

def Label.ofMapped? (cs : List Char) : Option Label :=
  match cs with
  | 'x' :: 'n' :: '-' :: '-' :: rest =>
    if !cs.all isAscii then none
    else
      (Punycode.decode? rest).bind fun spelled =>
        if spelled.all isAscii || !isWellFormed spelled || compose spelled ≠ spelled ||
            Punycode.encode spelled ≠ rest then none
        else some ⟨cs, spelled⟩
  | cs =>
    if cs.all isAscii then
      if cs.any isForbidden then none else some ⟨cs, cs⟩
    else if isWellFormed cs then some ⟨'x' :: 'n' :: '-' :: '-' :: Punycode.encode cs, cs⟩
    else none

def joinLabels : List (List Char) → List Char
  | [] => []
  | [label] => label
  | label :: rest => label ++ '.' :: joinLabels rest

-- Holds of the names in ASCII that have no label in Punycode. They are neither composed nor checked
-- for direction, and nothing in them is replaced but upper case.
def isPlain (text : List Char) : Bool :=
  text.all isAscii &&
    (pieces '.' (text.map Char.toLower)).all fun piece => !("xn--".toList.isPrefixOf piece)

def ofPlain? (text : List Char) : Option (List Char) :=
  if text.any isForbidden then none else some (text.map Char.toLower)

-- The ASCII form of any other name: mapped, composed and checked label by label.
def ofLabels? (text : List Char) : Option (List Char) := do
  let mapped ← text.mapM mapChar?
  let labels ← (pieces '.' (compose mapped.flatten)).mapM Label.ofMapped?
  if labels.any (fun l => l.spelled.any isRightward) &&
      !labels.all (fun l => directionsFit l.spelled) then
    none
  else
    return joinLabels (labels.map (·.written))

-- The ASCII form of the name that the bytes spell, if it has one.
def toAscii? (bs : Bytes) : Option (List Char) := do
  let text ← Utf8.decode? bs
  if isPlain text then ofPlain? text else ofLabels? text

end ChallengeLogin.Url.Domain
