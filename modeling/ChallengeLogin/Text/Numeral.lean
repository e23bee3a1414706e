namespace ChallengeLogin.Text

def isDigit (c : Char) : Bool :=
  '0' ≤ c && c ≤ '9'

-- The value of a list of decimal digits.
def decimalValue (cs : List Char) : Nat :=
  cs.foldl (fun n c => n * 10 + (c.toNat - 48)) 0

-- Reads a whole number. Zeros in front are allowed, an empty run of digits is not.
def natural? (cs : List Char) : Option Nat :=
  let digits := match cs with
    | '+' :: rest => rest
    | cs => cs
  if digits.isEmpty || !digits.all isDigit then none else some (decimalValue digits)

end ChallengeLogin.Text
