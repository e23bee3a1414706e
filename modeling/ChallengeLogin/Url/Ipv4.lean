import ChallengeLogin.Text.Octets

namespace ChallengeLogin.Url.Ipv4

-- The parts of a text between dots.
def parts (cs : List Char) : List (List Char) :=
  cs.splitOnP (· == '.')

def digitValue? (c : Char) : Option Nat :=
  let n := c.toNat
  if 48 ≤ n ∧ n ≤ 57 then some (n - 48)
  else if 65 ≤ n ∧ n ≤ 70 then some (n - 55)
  else if 97 ≤ n ∧ n ≤ 102 then some (n - 87)
  else none

def natInBase? (base : Nat) (cs : List Char) : Option Nat :=
  cs.foldlM (fun n c =>
    (digitValue? c).bind fun d => if d < base then some (n * base + d) else none) 0

-- A number in any of the three notations. A bare `0x` is zero.
def number? (cs : List Char) : Option Nat :=
  match cs with
  | [] => none
  | '0' :: 'x' :: rest => natInBase? 16 rest
  | '0' :: 'X' :: rest => natInBase? 16 rest
  | '0' :: c :: rest => natInBase? 8 (c :: rest)
  | cs => natInBase? 10 cs

-- The parts of a host, without an empty last one
def significantParts (cs : List Char) : List (List Char) :=
  let ps := parts cs
  if 1 < ps.length ∧ ps.getLast? = some [] then ps.dropLast else ps

-- Holds of a host whose last part is a number. Such a host is an address or an error.
def endsInNumber (cs : List Char) : Bool :=
  match (significantParts cs).getLast? with
  | none => false
  | some last => (!last.isEmpty && last.all (fun c => 48 ≤ c.toNat && c.toNat ≤ 57)) ||
      (number? last).isSome

-- The number of an address.
def parse? (cs : List Char) : Option Nat := do
  let ps := significantParts cs
  if 4 < ps.length then none
  else
    let numbers ← ps.mapM number?
    let last ← numbers.getLast?
    let front := numbers.dropLast
    if Nat.pow 256 (4 - front.length) ≤ last ∨ front.any (255 < ·) then none
    else
      let high := front.foldl (fun n b => n * 256 + b) 0
      some (high * Nat.pow 256 (4 - front.length) + last)

-- Four decimal numbers with dots between them.
def toText (n : Nat) : List Char :=
  List.intercalate ['.'] ((Text.bytesOfNat 4 n).map fun b => Nat.toDigits 10 b.toNat)

end ChallengeLogin.Url.Ipv4
