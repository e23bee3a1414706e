namespace ChallengeLogin.Text

-- The characters of the Unicode property White_Space.
def isBlank (c : Char) : Bool :=
  let n := c.toNat
  (0x09 ≤ n && n ≤ 0x0D) || n == 0x20 || n == 0x85 || n == 0xA0 || n == 0x1680 ||
    (0x2000 ≤ n && n ≤ 0x200A) || n == 0x2028 || n == 0x2029 || n == 0x202F || n == 0x205F ||
    n == 0x3000

-- Removes the longest run at the end of the list that satisfies `p`
def trimEnd (p : α → Bool) (l : List α) : List α :=
  (l.reverse.dropWhile p).reverse

-- Removes the longest runs at both ends that satisfy `p`
def trim (p : α → Bool) (l : List α) : List α :=
  trimEnd p (l.dropWhile p)

-- The text without the blanks around it.
def trimBlank (s : String) : String :=
  String.ofList (trim isBlank s.toList)

-- Holds of a text that is empty or made of blanks only.
def allBlank (s : String) : Bool :=
  s.toList.all isBlank

@[simp] theorem trimEnd_nil (p : α → Bool) : trimEnd p ([] : List α) = [] := rfl

-- What stands before the first element that satisfies `p`, and what follows it if there is one.
def cutAt (p : α → Bool) (l : List α) : List α × Option (List α) :=
  match l.dropWhile (fun a => !p a) with
  | [] => (l, none)
  | _ :: rest => (l.takeWhile (fun a => !p a), some rest)

end ChallengeLogin.Text
