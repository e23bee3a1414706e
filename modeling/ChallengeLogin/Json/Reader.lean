import ChallengeLogin.Text.Utf8

namespace ChallengeLogin.Json

open ChallengeLogin.Text

inductive Fault where
  | truncated
  | malformed
  | wrongShape
  | missingMember (name : String)
  | duplicateMember (name : String)
deriving DecidableEq, Repr

abbrev Result (α : Type) := Except Fault (α × Symbols)

-- A reading step, with the law that makes loops over it end
structure Reader (α : Type) where
  run : Symbols → Result α
  shrinks : ∀ {s a rest}, run s = .ok (a, rest) → rest.length < s.length

def isSpace : Option Char → Bool
  | some c => c = ' ' || c = '\n' || c = '\t' || c = '\r'
  | none => false

def skipSpace (s : Symbols) : Symbols :=
  s.dropWhile isSpace

theorem skipSpace_length_le (s : Symbols) : (skipSpace s).length ≤ s.length :=
  (List.dropWhile_sublist isSpace).length_le

section Strings

def hexValue? (c : Char) : Option Nat :=
  let n := c.toNat
  if 48 ≤ n ∧ n ≤ 57 then some (n - 48)
  else if 65 ≤ n ∧ n ≤ 70 then some (n - 55)
  else if 97 ≤ n ∧ n ≤ 102 then some (n - 87)
  else none

def hexSymbol? (a : Option Char) : Option Nat :=
  a.bind hexValue?

-- The four digits of a numbered escape. Fewer than four bytes left means the text ends too early,
-- four bytes that are not all digits mean it is malformed.
def fourDigits : Symbols → Result Nat
  | a :: b :: c :: d :: rest =>
    match hexSymbol? a, hexSymbol? b, hexSymbol? c, hexSymbol? d with
    | some a, some b, some c, some d => .ok (((a * 16 + b) * 16 + c) * 16 + d, rest)
    | _, _, _, _ => .error .malformed
  | s => if 4 ≤ Utf8.totalWidth s then .error .malformed else .error .truncated

theorem fourDigits_length {s rest : Symbols} {n : Nat} (h : fourDigits s = .ok (n, rest)) :
    rest.length < s.length := by
  unfold fourDigits at h
  split at h
  · split at h
    · simp only [Except.ok.injEq, Prod.mk.injEq] at h
      simp [← h.2]
      omega
    · simp at h
  · split at h <;> simp at h

-- The character of a short escape
def shortEscape? (c : Char) : Option Char :=
  if c = '"' then some '"'
  else if c = '\\' then some '\\'
  else if c = '/' then some '/'
  else if c = 'b' then some '\x08'
  else if c = 'f' then some '\x0c'
  else if c = 'n' then some '\n'
  else if c = 'r' then some '\r'
  else if c = 't' then some '\t'
  else none

-- The second half of a surrogate pair: an escape of its own, numbered as a low surrogate
def lowSurrogate : Symbols → Result Nat
  | [] => .error .truncated
  | [some '\\'] => .error .truncated
  | some '\\' :: some 'u' :: s =>
    match fourDigits s with
    | .error e => .error e
    | .ok (n, rest) => if 0xDC00 ≤ n ∧ n ≤ 0xDFFF then .ok (n, rest) else .error .malformed
  | _ => .error .malformed

-- What follows `\u`. A surrogate counts only as half of a pair.
def numberedEscape (s : Symbols) : Result Char :=
  match fourDigits s with
  | .error e => .error e
  | .ok (n, rest) =>
    if 0xDC00 ≤ n ∧ n ≤ 0xDFFF then .error .malformed
    else if 0xD800 ≤ n ∧ n ≤ 0xDBFF then
      match lowSurrogate rest with
      | .error e => .error e
      | .ok (m, rest') => .ok (Char.ofNat ((n - 0xD800) * 1024 + (m - 0xDC00) + 0x10000), rest')
    else .ok (Char.ofNat n, rest)

-- What follows a backslash
def escaped : Symbols → Result Char
  | [] => .error .truncated
  | some 'u' :: s => numberedEscape s
  | some c :: s =>
    match shortEscape? c with
    | some d => .ok (d, s)
    | none => .error .malformed
  | none :: _ => .error .malformed

-- One step inside a string: `none` for the closing quote, otherwise a character.
def stringItem : Symbols → Result (Option Char)
  | [] => .error .truncated
  | some c :: s =>
    if c = '"' then .ok (none, s)
    else if c = '\\' then
      match escaped s with
      | .error e => .error e
      | .ok (d, rest) => .ok (some d, rest)
    else if c.toNat < 0x20 then .error .malformed
    else .ok (some c, s)
  | none :: _ => .error .malformed

theorem lowSurrogate_length {s rest : Symbols} {n : Nat} (h : lowSurrogate s = .ok (n, rest)) :
    rest.length < s.length := by
  unfold lowSurrogate at h
  split at h
  · simp at h
  · simp at h
  · split at h
    · simp at h
    · rename_i hd
      have := fourDigits_length hd
      split at h
      · simp only [Except.ok.injEq, Prod.mk.injEq] at h
        rw [← h.2]
        simp only [List.length_cons]
        omega
      · simp at h
  · simp at h

theorem numberedEscape_length {s rest : Symbols} {c : Char} (h : numberedEscape s = .ok (c, rest)) :
    rest.length < s.length := by
  unfold numberedEscape at h
  split at h
  · simp at h
  · rename_i hd
    have := fourDigits_length hd
    split at h
    · simp at h
    · split at h
      · split at h
        · simp at h
        · rename_i hl
          have := lowSurrogate_length hl
          simp only [Except.ok.injEq, Prod.mk.injEq] at h
          rw [← h.2]
          omega
      · simp only [Except.ok.injEq, Prod.mk.injEq] at h
        rw [← h.2]
        omega

theorem escaped_length {s rest : Symbols} {c : Char} (h : escaped s = .ok (c, rest)) :
    rest.length < s.length := by
  unfold escaped at h
  split at h
  · simp at h
  · have := numberedEscape_length h
    simp only [List.length_cons]
    omega
  · split at h
    · simp only [Except.ok.injEq, Prod.mk.injEq] at h
      simp [← h.2]
    · simp at h
  · simp at h

theorem stringItem_length {s rest : Symbols} {i : Option Char} (h : stringItem s = .ok (i, rest)) :
    rest.length < s.length := by
  unfold stringItem at h
  split at h
  · simp at h
  · split at h
    · simp only [Except.ok.injEq, Prod.mk.injEq] at h
      simp [← h.2]
    · split at h
      · split at h
        · simp at h
        · rename_i he
          have := escaped_length he
          simp only [Except.ok.injEq, Prod.mk.injEq] at h
          rw [← h.2]
          simp only [List.length_cons]
          omega
      · split at h
        · simp at h
        · simp only [Except.ok.injEq, Prod.mk.injEq] at h
          simp [← h.2]
  · simp at h

-- The characters of a string, from behind its opening quote to behind its closing one.
def stringBody (s : Symbols) : Result (List Char) :=
  match h : stringItem s with
  | .error e => .error e
  | .ok (none, rest) => .ok ([], rest)
  | .ok (some c, rest) =>
    have : rest.length < s.length := stringItem_length h
    match stringBody rest with
    | .error e => .error e
    | .ok (cs, rest') => .ok (c :: cs, rest')
termination_by s.length

theorem stringBody_length {s rest : Symbols} {cs : List Char} (h : stringBody s = .ok (cs, rest)) :
    rest.length < s.length := by
  fun_induction stringBody s generalizing cs rest with
  | case1 => simp at h
  | case2 s r hr =>
    simp only [Except.ok.injEq, Prod.mk.injEq] at h
    rw [← h.2]
    exact stringItem_length hr
  | case3 => simp at h
  | case4 s c r hr hlt ds r' hb ih =>
    simp only [Except.ok.injEq, Prod.mk.injEq] at h
    rw [← h.2]
    have := ih hb
    omega

end Strings

section Numbers

def isDigit : Option Char → Bool
  | some c => 48 ≤ c.toNat && c.toNat ≤ 57
  | none => false

def digitValue (a : Option Char) : Nat :=
  (a.map (fun c => c.toNat - 48)).getD 0

def digits (s : Symbols) : List Nat :=
  (s.takeWhile isDigit).map digitValue

def afterDigits (s : Symbols) : Symbols :=
  s.dropWhile isDigit

theorem afterDigits_length_le (s : Symbols) : (afterDigits s).length ≤ s.length :=
  (List.dropWhile_sublist isDigit).length_le

-- The largest number of 64 bits
def maxUnsigned : Nat := 0xffffffffffffffff

-- Appends digits to a number while it stays within 64 bits, and counts the digits left over
def absorb (n : Nat) : List Nat → Nat × Nat
  | [] => (n, 0)
  | d :: ds => if n * 10 + d ≤ maxUnsigned then absorb (n * 10 + d) ds else (n, ds.length + 1)

-- A natural number rounded to 53 binary digits, ties to even
def roundBinary (n : Nat) : Nat :=
  let shift := n.log2 - 52
  let unit := Nat.pow 2 shift
  let q := n / unit
  let r := n % unit
  if 2 * r < unit then q * unit
  else if unit < 2 * r then (q + 1) * unit
  else if q % 2 = 0 then q * unit else (q + 1) * unit

-- Holds of a number that no double precision value can stand for: the significand, rounded, times
-- the power of ten, rounded, would round to infinity.
def outOfRange (significand : Nat) (exponent : Int) : Bool :=
  if significand = 0 || exponent < 0 then false
  else if 308 < exponent then true
  else decide (Nat.pow 2 1024 ≤
    roundBinary (roundBinary significand * roundBinary (Nat.pow 10 exponent.toNat)))

-- A number as it is written
structure Numeral where
  negative : Bool
  whole : List Nat
  fraction : List Nat
  exponent : Option Int

namespace Numeral

-- The value of a number of at most 64 bits, written without a sign, a fraction or an exponent
def value? (n : Numeral) : Option Nat :=
  let (value, left) := absorb 0 n.whole
  if n.negative || left != 0 || !n.fraction.isEmpty || n.exponent.isSome then none else some value

def isOutOfRange (n : Numeral) : Bool :=
  let (whole, left) := absorb 0 n.whole
  let (significand, dropped) := absorb whole n.fraction
  outOfRange significand
    ((left : Int) - (n.fraction.length - dropped : Nat) + n.exponent.getD 0)

end Numeral

-- At least one digit
def someDigits : Symbols → Result (List Nat)
  | [] => .error .truncated
  | a :: s =>
    if isDigit a then .ok (digits (a :: s), afterDigits (a :: s)) else .error .malformed

-- The digits before the point: no zero in front of another digit
def wholePart : Symbols → Result (List Nat)
  | some '0' :: a :: s =>
    if isDigit a then .error .malformed else .ok ([0], a :: s)
  | s => someDigits s

def fractionPart : Symbols → Result (List Nat)
  | some '.' :: s => someDigits s
  | s => .ok ([], s)

def exponentDigits (negative : Bool) (s : Symbols) : Result (Option Int) :=
  match someDigits s with
  | .error e => .error e
  | .ok (ds, rest) =>
    let n : Nat := ds.foldl (fun n d => n * 10 + d) 0
    .ok (some (if negative then -(n : Int) else n), rest)

def exponentPart : Symbols → Result (Option Int)
  | [] => .ok (none, [])
  | a :: s =>
    if a = some 'e' || a = some 'E' then
      match s with
      | some '-' :: s' => exponentDigits true s'
      | some '+' :: s' => exponentDigits false s'
      | s' => exponentDigits false s'
    else .ok (none, a :: s)

def unsignedNumeral (negative : Bool) (s : Symbols) : Result Numeral :=
  match wholePart s with
  | .error e => .error e
  | .ok (whole, s₁) =>
    match fractionPart s₁ with
    | .error e => .error e
    | .ok (fraction, s₂) =>
      match exponentPart s₂ with
      | .error e => .error e
      | .ok (exponent, s₃) => .ok (⟨negative, whole, fraction, exponent⟩, s₃)

def numeral : Symbols → Result Numeral
  | some '-' :: s => unsignedNumeral true s
  | s => unsignedNumeral false s

-- A number, with its value where it has one. A number that no double can hold is malformed.
def number (s : Symbols) : Result (Option Nat) :=
  match numeral s with
  | .error e => .error e
  | .ok (n, rest) => if n.isOutOfRange then .error .malformed else .ok (n.value?, rest)

theorem someDigits_length {s rest : Symbols} {ds : List Nat} (h : someDigits s = .ok (ds, rest)) :
    rest.length < s.length := by
  unfold someDigits at h
  split at h
  · simp at h
  · rename_i a s
    split at h
    · rename_i hd
      simp only [Except.ok.injEq, Prod.mk.injEq] at h
      rw [← h.2, afterDigits, List.dropWhile_cons, if_pos hd]
      have := afterDigits_length_le s
      simp only [afterDigits] at this
      simp only [List.length_cons]
      omega
    · simp at h

theorem wholePart_length {s rest : Symbols} {ds : List Nat} (h : wholePart s = .ok (ds, rest)) :
    rest.length < s.length := by
  unfold wholePart at h
  split at h
  · split at h
    · simp at h
    · simp only [Except.ok.injEq, Prod.mk.injEq] at h
      simp [← h.2]
  · exact someDigits_length h

theorem fractionPart_length {s rest : Symbols} {ds : List Nat}
    (h : fractionPart s = .ok (ds, rest)) :
    rest.length ≤ s.length := by
  unfold fractionPart at h
  split at h
  · have := someDigits_length h
    simp only [List.length_cons]
    omega
  · simp only [Except.ok.injEq, Prod.mk.injEq] at h
    simp [← h.2]

theorem exponentDigits_length {s rest : Symbols} {negative : Bool} {n : Option Int}
    (h : exponentDigits negative s = .ok (n, rest)) : rest.length < s.length := by
  unfold exponentDigits at h
  split at h
  · simp at h
  · rename_i hd
    have := someDigits_length hd
    simp only [Except.ok.injEq, Prod.mk.injEq] at h
    rw [← h.2]
    exact this

theorem exponentPart_length {s rest : Symbols} {n : Option Int}
    (h : exponentPart s = .ok (n, rest)) :
    rest.length ≤ s.length := by
  unfold exponentPart at h
  split at h
  · simp only [Except.ok.injEq, Prod.mk.injEq] at h
    simp [← h.2]
  · split at h
    · split at h <;> (have hd := exponentDigits_length h; simp only [List.length_cons] at *; omega)
    · simp only [Except.ok.injEq, Prod.mk.injEq] at h
      simp [← h.2]

theorem unsignedNumeral_length {s rest : Symbols} {negative : Bool} {n : Numeral}
    (h : unsignedNumeral negative s = .ok (n, rest)) : rest.length < s.length := by
  unfold unsignedNumeral at h
  split at h
  · simp at h
  · rename_i hw
    split at h
    · simp at h
    · rename_i hf
      split at h
      · simp at h
      · rename_i he
        simp only [Except.ok.injEq, Prod.mk.injEq] at h
        have := wholePart_length hw
        have := fractionPart_length hf
        have := exponentPart_length he
        rw [← h.2]
        omega

theorem numeral_length {s rest : Symbols} {n : Numeral} (h : numeral s = .ok (n, rest)) :
    rest.length < s.length := by
  unfold numeral at h
  split at h
  · have := unsignedNumeral_length h
    simp only [List.length_cons]
    omega
  · exact unsignedNumeral_length h

theorem number_length {s rest : Symbols} {n : Option Nat} (h : number s = .ok (n, rest)) :
    rest.length < s.length := by
  unfold number at h
  split at h
  · simp at h
  · rename_i hn
    split at h
    · simp at h
    · simp only [Except.ok.injEq, Prod.mk.injEq] at h
      rw [← h.2]
      exact numeral_length hn

end Numbers

section Values

-- The letters of a literal, in order
def literal : List Char → Symbols → Result Unit
  | [], s => .ok ((), s)
  | _ :: _, [] => .error .truncated
  | w :: ws, a :: s => if a = some w then literal ws s else .error .malformed

theorem literal_length_le {word : List Char} {s rest : Symbols}
    (h : literal word s = .ok ((), rest)) :
    rest.length ≤ s.length := by
  induction word generalizing s with
  | nil =>
    simp only [literal, Except.ok.injEq, Prod.mk.injEq, true_and] at h
    exact Nat.le_of_eq (congrArg List.length h.symm)
  | cons w ws ih =>
    cases s with
    | nil => simp [literal] at h
    | cons a s =>
      simp only [literal] at h
      split at h
      · exact Nat.le_succ_of_le (ih h)
      · simp at h

def startsNumber (c : Char) : Bool :=
  c = '-' || (48 ≤ c.toNat && c.toNat ≤ 57)

-- Reads a scalar only to learn whether it is whole
def scalarFault (s : Symbols) : Option Fault :=
  let fault {α : Type} : Result α → Option Fault
    | .error e => some e
    | .ok _ => none
  match s with
  | [] => some .truncated
  | none :: _ => some .malformed
  | some c :: rest =>
    if c = 'n' then fault (literal ['u', 'l', 'l'] rest)
    else if c = 't' then fault (literal ['r', 'u', 'e'] rest)
    else if c = 'f' then fault (literal ['a', 'l', 's', 'e'] rest)
    else if c = '"' then fault (stringBody rest)
    else if startsNumber c then fault (number s)
    else if c = '[' || c = '\x7b' then none
    else some .malformed

-- The fault of a value that is not of the type asked for: its own, if it is a scalar that is not
-- whole, otherwise its shape. The inside of an array or object is not looked at.
def refuse (s : Symbols) : Fault :=
  (scalarFault s).getD .wrongShape

def stringValue (s : Symbols) : Result String :=
  match skipSpace s with
  | some '"' :: rest =>
    match stringBody rest with
    | .error e => .error e
    | .ok (cs, rest') => .ok (String.ofList cs, rest')
  | s' => .error (refuse s')

-- A string.
def Reader.string : Reader String where
  run := stringValue
  shrinks := by
    intro s a rest h
    have hs := skipSpace_length_le s
    unfold stringValue at h
    split at h
    · rename_i hq
      rw [hq] at hs
      split at h
      · simp at h
      · rename_i hb
        have := stringBody_length hb
        simp only [Except.ok.injEq, Prod.mk.injEq] at h
        rw [← h.2]
        simp only [List.length_cons] at hs
        omega
    · simp at h

def naturalValue (limit : Nat) (s : Symbols) : Result Nat :=
  match skipSpace s with
  | some c :: rest =>
    if startsNumber c then
      match number (some c :: rest) with
      | .error e => .error e
      | .ok (some n, rest') => if n ≤ limit then .ok (n, rest') else .error .wrongShape
      | .ok (none, _) => .error .wrongShape
    else .error (refuse (some c :: rest))
  | s' => .error (refuse s')

-- A whole number from zero to the limit.
def Reader.natural (limit : Nat) : Reader Nat where
  run := naturalValue limit
  shrinks := by
    intro s a rest h
    have hs := skipSpace_length_le s
    unfold naturalValue at h
    split at h
    · rename_i hq
      rw [hq] at hs
      split at h
      · split at h
        · simp at h
        · rename_i hb
          have := number_length hb
          split at h
          · simp only [Except.ok.injEq, Prod.mk.injEq] at h
            rw [← h.2]
            omega
          · simp at h
        · simp at h
      · simp at h
    · simp at h

-- Behind an item of an array: `true` where another one follows
def afterItem (s : Symbols) : Result Bool :=
  match skipSpace s with
  | [] => .error .truncated
  | some ']' :: rest => .ok (false, rest)
  | some ',' :: rest =>
    match skipSpace rest with
    | [] => .error .truncated
    | some ']' :: _ => .error .malformed
    | rest' => .ok (true, rest')
  | _ => .error .malformed

theorem afterItem_length {s rest : Symbols} {more : Bool} (h : afterItem s = .ok (more, rest)) :
    rest.length < s.length := by
  have hs := skipSpace_length_le s
  unfold afterItem at h
  split at h
  · simp at h
  · rename_i hq
    rw [hq] at hs
    simp only [Except.ok.injEq, Prod.mk.injEq] at h
    rw [← h.2]
    simp only [List.length_cons] at hs
    omega
  · rename_i r hq
    rw [hq] at hs
    have hr := skipSpace_length_le r
    split at h
    · simp at h
    · simp at h
    · simp only [Except.ok.injEq, Prod.mk.injEq] at h
      rw [← h.2]
      simp only [List.length_cons] at hs
      omega
  · simp at h

-- The items of an array, from the first one to behind the closing bracket
def items (element : Reader α) (s : Symbols) : Result (List α) :=
  match h : element.run s with
  | .error e => .error e
  | .ok (a, rest) =>
    match h' : afterItem rest with
    | .error e => .error e
    | .ok (false, rest') => .ok ([a], rest')
    | .ok (true, rest') =>
      have : rest'.length < s.length := Nat.lt_trans (afterItem_length h') (element.shrinks h)
      match items element rest' with
      | .error e => .error e
      | .ok (as, rest'') => .ok (a :: as, rest'')
termination_by s.length

theorem items_length {element : Reader α} {s rest : Symbols} {as : List α}
    (h : items element s = .ok (as, rest)) : rest.length < s.length := by
  fun_induction items element s generalizing as rest with
  | case1 => simp at h
  | case2 => simp at h
  | case3 s a r hr r' hr' =>
    simp only [Except.ok.injEq, Prod.mk.injEq] at h
    rw [← h.2]
    exact Nat.lt_trans (afterItem_length hr') (element.shrinks hr)
  | case4 => simp at h
  | case5 s a r hr r' hr' hlt bs r'' hb ih =>
    simp only [Except.ok.injEq, Prod.mk.injEq] at h
    rw [← h.2]
    have := ih hb
    omega

def listValue (element : Reader α) (s : Symbols) : Result (List α) :=
  match skipSpace s with
  | some '[' :: rest =>
    match skipSpace rest with
    | [] => .error .truncated
    | some ']' :: rest' => .ok ([], rest')
    | rest' => items element rest'
  | s' => .error (refuse s')

-- An array of items of one kind.
def Reader.list (element : Reader α) : Reader (List α) where
  run := listValue element
  shrinks := by
    intro s a rest h
    have hs := skipSpace_length_le s
    unfold listValue at h
    split at h
    · rename_i r hq
      rw [hq] at hs
      have hr := skipSpace_length_le r
      simp only [List.length_cons] at hs
      split at h
      · simp at h
      · rename_i hc
        rw [hc] at hr
        simp only [Except.ok.injEq, Prod.mk.injEq] at h
        rw [← h.2]
        simp only [List.length_cons] at hr
        omega
      · have := items_length h
        omega
    · simp at h

-- The value of a reader, passed through a function.
def Reader.map (f : α → β) (reader : Reader α) : Reader β where
  run s :=
    match reader.run s with
    | .error e => .error e
    | .ok (a, rest) => .ok (f a, rest)
  shrinks := by
    intro s b rest h
    split at h
    · simp at h
    · rename_i hr
      simp only [Except.ok.injEq, Prod.mk.injEq] at h
      rw [← h.2]
      exact reader.shrinks hr

end Values

end ChallengeLogin.Json
