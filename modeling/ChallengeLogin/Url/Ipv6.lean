import ChallengeLogin.Url.Ipv4

namespace ChallengeLogin.Url.Ipv6

-- The groups read so far: all of them, or those before and after the `::`
structure Groups where
  before : List Nat
  after : Option (List Nat)

namespace Groups

-- The `::` takes the place of at least one group
def count (g : Groups) : Nat :=
  match g.after with
  | none => g.before.length
  | some later => g.before.length + 1 + later.length

def push (g : Groups) (n : Nat) : Groups :=
  match g.after with
  | none => { g with before := g.before ++ [n] }
  | some later => { g with after := some (later ++ [n]) }

-- The eight groups, with zeros for the `::`.
def toList? (g : Groups) : Option (List Nat) :=
  match g.after with
  | none => if g.before.length = 8 then some g.before else none
  | some later =>
    some (g.before ++ List.replicate (8 - (g.before.length + later.length)) 0 ++ later)

end Groups

-- A decimal byte without leading zeros
def decimalByte? (cs : List Char) : Option Nat :=
  match cs with
  | [] => none
  | ['0'] => some 0
  | '0' :: _ => none
  | cs => (Ipv4.natInBase? 10 cs).bind fun n => if n ≤ 255 then some n else none

-- The two groups of an IPv4 address in full decimal notation
def dotted? (cs : List Char) : Option (Nat × Nat) :=
  match (Ipv4.parts cs).mapM decimalByte? with
  | some [a, b, c, d] => some (a * 256 + b, c * 256 + d)
  | _ => none

def isHexDigit (c : Char) : Bool :=
  (Ipv4.digitValue? c).isSome

-- Reads groups up to the end of the text
def groups? (g : Groups) (cs : List Char) : Option Groups :=
  match cs with
  | [] => some g
  | c :: rest =>
    if g.count = 8 then none
    else if c = ':' then
      if g.after.isSome then none else groups? { g with after := some [] } rest
    else
      let digits := ((c :: rest).takeWhile isHexDigit).take 4
      if digits.isEmpty then none
      else
        match h : (c :: rest).drop digits.length with
        | [] => (Ipv4.natInBase? 16 digits).map g.push
        | '.' :: _ =>
          if 6 < g.count then none
          else (dotted? (c :: rest)).map fun (high, low) => (g.push high).push low
        | ':' :: tail =>
          if tail.isEmpty then none
          else
            have : tail.length < (c :: rest).length := by
              have := congrArg List.length h
              simp only [List.length_drop, List.length_cons] at this ⊢
              omega
            (Ipv4.natInBase? 16 digits).bind fun n => groups? (g.push n) tail
        | _ => none
termination_by cs.length
decreasing_by all_goals (simp only [List.length_cons] at *; omega)

-- The eight groups of an address, without its brackets.
def parse? (cs : List Char) : Option (List Nat) :=
  let start : Option (Groups × List Char) :=
    match cs with
    | ':' :: ':' :: rest => some (⟨[], some []⟩, rest)
    | ':' :: _ => none
    | cs => some (⟨[], none⟩, cs)
  start.bind fun (g, rest) => (groups? g rest).bind Groups.toList?

-- Length of the run of zeros at the head
def zeroRun (l : List Nat) : Nat :=
  (l.takeWhile (· == 0)).length

-- Start and length of the first longest run of zeros
def longestRun : Nat → List Nat → Nat × Nat
  | _, [] => (0, 0)
  | i, n :: rest =>
    let here := zeroRun (n :: rest)
    let later := longestRun (i + 1) rest
    if later.2 ≤ here then (i, here) else later

def groupText (n : Nat) : List Char :=
  Nat.toDigits 16 n

def colons : List Nat → List Char
  | [] => []
  | [n] => groupText n
  | n :: rest => groupText n ++ ':' :: colons rest

def toText (groups : List Nat) : List Char :=
  let (start, length) := longestRun 0 groups
  if length < 2 then colons groups
  else colons (groups.take start) ++ ':' :: ':' :: colons (groups.drop (start + length))

end ChallengeLogin.Url.Ipv6
