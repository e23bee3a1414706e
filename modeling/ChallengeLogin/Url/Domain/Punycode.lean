namespace ChallengeLogin.Url.Domain.Punycode

def base : Nat := 36

-- The distance that a digit at place `k` may still leave open
def threshold (k bias : Nat) : Nat :=
  if k ≤ bias + 1 then 1 else if bias + 26 ≤ k then 26 else k - bias

def shrink (fuel delta k : Nat) : Nat :=
  match fuel with
  | 0 => k + 36 * delta / (delta + 38)
  | fuel + 1 =>
    if 455 < delta then shrink fuel (delta / 35) (k + 36) else k + 36 * delta / (delta + 38)

-- The bias for the next number, from the size of the last one.
def adapt (delta points : Nat) (first : Bool) : Nat :=
  let delta := if first then delta / 700 else delta / 2
  let delta := delta + delta / points
  shrink delta delta 0

def digitChar (d : Nat) : Char :=
  if d < 26 then Char.ofNat (97 + d) else Char.ofNat (22 + d)

def digitValue? (c : Char) : Option Nat :=
  let n := c.toNat
  if 97 ≤ n ∧ n ≤ 122 then some (n - 97)
  else if 65 ≤ n ∧ n ≤ 90 then some (n - 65)
  else if 48 ≤ n ∧ n ≤ 57 then some (n - 22)
  else none

-- A number with digits of falling weight; the last one is below its threshold
def writeNumber (q k bias : Nat) : List Char :=
  let t := threshold k bias
  if q < t then [digitChar q]
  else digitChar (t + (q - t) % (36 - t)) :: writeNumber ((q - t) / (36 - t)) (k + 36) bias
termination_by q
decreasing_by
  have ht : 1 ≤ threshold k bias := by unfold threshold; split <;> (try split) <;> omega
  have : (q - threshold k bias) / (36 - threshold k bias) ≤ q - threshold k bias :=
    Nat.div_le_self _ _
  omega

def readNumber (bias : Nat) : Nat → Nat → Nat → List Char → Option (Nat × List Char)
  | _, _, _, [] => none
  | k, weight, n, c :: rest =>
    match digitValue? c with
    | none => none
    | some d =>
      let n := n + d * weight
      let t := threshold k bias
      if d < t then some (n, rest) else readNumber bias (k + 36) (weight * (36 - t)) n rest

theorem readNumber_length {bias k weight n m : Nat} {cs rest : List Char}
    (h : readNumber bias k weight n cs = some (m, rest)) : rest.length < cs.length := by
  induction cs generalizing k weight n with
  | nil => simp [readNumber] at h
  | cons c cs ih =>
    simp only [readNumber] at h
    split at h
    · simp at h
    · split at h
      · simp only [Option.some.injEq, Prod.mk.injEq] at h
        simp [← h.2]
      · exact Nat.lt_succ_of_lt (ih h)

-- The state of a writer: distance so far, bias, characters written, and the output
structure Writer where
  delta : Nat
  bias : Nat
  written : Nat
  out : List Char

-- Passes once over the text for the code point `n`, after `seen` has been handled
def writePoint (text : List Nat) (basic : Nat) (w : Writer) (seen n : Nat) : Writer :=
  let start := { w with delta := w.delta + (n - seen) * (w.written + 1) }
  let pass := text.foldl (fun (w : Writer) c =>
    if c < n then { w with delta := w.delta + 1 }
    else if c = n then
      ⟨0, adapt w.delta (w.written + 1) (w.written == basic), w.written + 1,
        w.out ++ writeNumber w.delta 36 w.bias⟩
    else w) start
  { pass with delta := pass.delta + 1 }

-- The code points above ASCII, rising, each once
def points (text : List Nat) : List Nat :=
  ((text.filter (128 ≤ ·)).mergeSort (· ≤ ·)).eraseDups

def encode (cs : List Char) : List Char :=
  let text := cs.map (·.toNat)
  let ascii := cs.filter (·.toNat < 128)
  let start : Writer := ⟨0, 72, ascii.length, if ascii.isEmpty then [] else ascii ++ ['-']⟩
  ((points text).foldl (fun (acc : Writer × Nat) n =>
    (writePoint text ascii.length acc.1 acc.2 n, n + 1)) (start, 128)).1.out

-- Reads numbers and puts the characters they stand for into the text
def insertAll (text : List Char) (n i bias : Nat) (cs : List Char) : Option (List Char) :=
  if cs.isEmpty then some text
  else
    match h : readNumber bias 36 1 i cs with
    | none => none
    | some (j, rest) =>
      have : rest.length < cs.length := readNumber_length h
      let size := text.length + 1
      let point := n + j / size
      if 0x10FFFF < point ∨ (0xD800 ≤ point ∧ point ≤ 0xDFFF) then none
      else
        let place := j % size
        insertAll (text.take place ++ Char.ofNat point :: text.drop place) point (place + 1)
          (adapt (j - i) size (i == 0)) rest
termination_by cs.length

-- The text that is written so, if any.
def decode? (cs : List Char) : Option (List Char) :=
  let reversed := cs.reverse
  let tail := (reversed.takeWhile (· != '-')).reverse
  let head := ((reversed.dropWhile (· != '-')).drop 1).reverse
  if head.all (·.toNat < 128) then insertAll head 128 0 72 tail else none

end ChallengeLogin.Url.Domain.Punycode
