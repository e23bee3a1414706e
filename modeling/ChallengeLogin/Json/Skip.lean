import ChallengeLogin.Json.Reader

namespace ChallengeLogin.Json

open ChallengeLogin.Text

inductive Frame where
  | list
  | object
deriving DecidableEq, Repr

def Frame.closer : Frame → Char
  | .list => ']'
  | .object => '\x7d'

-- Where a skip stands: before a value, behind an opening bracket, before a key, or behind a value
inductive Place where
  | value
  | opened
  | key
  | behind
deriving DecidableEq, Repr

-- What comes behind a comma
def Frame.item : Frame → Place
  | .list => .value
  | .object => .key

def skippedEscape : Symbols → Result Unit
  | [] => .error .truncated
  | some 'u' :: s =>
    match fourDigits s with
    | .error e => .error e
    | .ok (_, rest) => .ok ((), rest)
  | some c :: s => if (shortEscape? c).isSome then .ok ((), s) else .error .malformed
  | none :: _ => .error .malformed

-- One step inside a skipped string: `false` at the closing quote
def skippedItem : Symbols → Result Bool
  | [] => .error .truncated
  | none :: s => .ok (true, s)
  | some c :: s =>
    if c = '"' then .ok (false, s)
    else if c = '\\' then
      match skippedEscape s with
      | .error e => .error e
      | .ok (_, rest) => .ok (true, rest)
    else if c.toNat < 0x20 then .error .malformed
    else .ok (true, s)

theorem skippedEscape_length {s rest : Symbols} (h : skippedEscape s = .ok ((), rest)) :
    rest.length < s.length := by
  unfold skippedEscape at h
  split at h
  · simp at h
  · split at h
    · simp at h
    · rename_i hd
      have := fourDigits_length hd
      simp only [Except.ok.injEq, Prod.mk.injEq, true_and] at h
      rw [← h]
      simp only [List.length_cons]
      omega
  · split at h
    · simp only [Except.ok.injEq, Prod.mk.injEq, true_and] at h
      simp [← h]
    · simp at h
  · simp at h

theorem skippedItem_length {s rest : Symbols} {more : Bool} (h : skippedItem s = .ok (more, rest)) :
    rest.length < s.length := by
  unfold skippedItem at h
  split at h
  · simp at h
  · simp only [Except.ok.injEq, Prod.mk.injEq] at h
    simp [← h.2]
  · split at h
    · simp only [Except.ok.injEq, Prod.mk.injEq] at h
      simp [← h.2]
    · split at h
      · split at h
        · simp at h
        · rename_i he
          have := skippedEscape_length he
          simp only [Except.ok.injEq, Prod.mk.injEq] at h
          rw [← h.2]
          simp only [List.length_cons]
          omega
      · split at h
        · simp at h
        · simp only [Except.ok.injEq, Prod.mk.injEq] at h
          simp [← h.2]

-- From behind the opening quote of a string to behind its closing one.
def skipString (s : Symbols) : Result Unit :=
  match h : skippedItem s with
  | .error e => .error e
  | .ok (false, rest) => .ok ((), rest)
  | .ok (true, rest) =>
    have : rest.length < s.length := skippedItem_length h
    skipString rest
termination_by s.length

theorem skipString_length {s rest : Symbols} (h : skipString s = .ok ((), rest)) :
    rest.length < s.length := by
  fun_induction skipString s generalizing rest with
  | case1 => simp at h
  | case2 s r hr =>
    simp only [Except.ok.injEq, Prod.mk.injEq, true_and] at h
    rw [← h]
    exact skippedItem_length hr
  | case3 s r hr hlt ih =>
    have := ih h
    omega

-- A number counts as malformed where it breaks off, even at the end of the text
def skipNumber (s : Symbols) : Result Unit :=
  match numeral s with
  | .error _ => .error .malformed
  | .ok (_, rest) => .ok ((), rest)

theorem skipNumber_length {s rest : Symbols} (h : skipNumber s = .ok ((), rest)) :
    rest.length < s.length := by
  unfold skipNumber at h
  split at h
  · simp at h
  · rename_i hn
    simp only [Except.ok.injEq, Prod.mk.injEq, true_and] at h
    rw [← h]
    exact numeral_length hn

-- The colon behind a key
def colon (s : Symbols) : Result Unit :=
  match skipSpace s with
  | [] => .error .truncated
  | some ':' :: rest => .ok ((), rest)
  | _ => .error .malformed

theorem colon_length {s rest : Symbols} (h : colon s = .ok ((), rest)) :
    rest.length < s.length := by
  have hs := skipSpace_length_le s
  unfold colon at h
  split at h
  · simp at h
  · rename_i hq
    rw [hq] at hs
    simp only [Except.ok.injEq, Prod.mk.injEq, true_and] at h
    rw [← h]
    simp only [List.length_cons] at hs
    omega
  · simp at h

-- A value up to its end, or up to behind its opening bracket
def skipStart (s : Symbols) : Result (Option Frame) :=
  let ended : Result Unit → Result (Option Frame)
    | .error e => .error e
    | .ok (_, rest) => .ok (none, rest)
  match skipSpace s with
  | [] => .error .truncated
  | none :: _ => .error .malformed
  | some c :: rest =>
    if c = '[' then .ok (some .list, rest)
    else if c = '\x7b' then .ok (some .object, rest)
    else if c = '"' then ended (skipString rest)
    else if c = 'n' then ended (literal ['u', 'l', 'l'] rest)
    else if c = 't' then ended (literal ['r', 'u', 'e'] rest)
    else if c = 'f' then ended (literal ['a', 'l', 's', 'e'] rest)
    else if startsNumber c then ended (skipNumber (some c :: rest))
    else .error .malformed

-- A key with its colon
def skipKey (s : Symbols) : Result Unit :=
  match skipSpace s with
  | [] => .error .truncated
  | some '"' :: rest =>
    match skipString rest with
    | .error e => .error e
    | .ok (_, rest') => colon rest'
  | _ => .error .malformed

-- Behind an opening bracket: `true` where an item follows
def skipOpened (frame : Frame) (s : Symbols) : Result Bool :=
  match skipSpace s with
  | [] => .error .truncated
  | a :: rest => if a = some frame.closer then .ok (false, rest) else .ok (true, a :: rest)

-- Behind a value inside a frame: `true` where a comma announces another item
def skipBehind (frame : Frame) (s : Symbols) : Result Bool :=
  match skipSpace s with
  | [] => .error .truncated
  | a :: rest =>
    if a = some ',' then .ok (true, rest)
    else if a = some frame.closer then .ok (false, rest)
    else .error .malformed

theorem skipStart_length {s rest : Symbols} {f : Option Frame} (h : skipStart s = .ok (f, rest)) :
    rest.length < s.length := by
  have hs := skipSpace_length_le s
  unfold skipStart at h
  simp only at h
  split at h
  · simp at h
  · simp at h
  · rename_i c r hq
    rw [hq] at hs
    simp only [List.length_cons] at hs
    split at h
    · simp only [Except.ok.injEq, Prod.mk.injEq] at h
      rw [← h.2]
      omega
    split at h
    · simp only [Except.ok.injEq, Prod.mk.injEq] at h
      rw [← h.2]
      omega
    split at h
    · split at h
      · simp at h
      · rename_i hx
        have := skipString_length hx
        simp only [Except.ok.injEq, Prod.mk.injEq] at h
        rw [← h.2]
        omega
    split at h
    · split at h
      · simp at h
      · rename_i hx
        have := literal_length_le hx
        simp only [Except.ok.injEq, Prod.mk.injEq] at h
        rw [← h.2]
        omega
    split at h
    · split at h
      · simp at h
      · rename_i hx
        have := literal_length_le hx
        simp only [Except.ok.injEq, Prod.mk.injEq] at h
        rw [← h.2]
        omega
    split at h
    · split at h
      · simp at h
      · rename_i hx
        have := literal_length_le hx
        simp only [Except.ok.injEq, Prod.mk.injEq] at h
        rw [← h.2]
        omega
    split at h
    · split at h
      · simp at h
      · rename_i hx
        have := skipNumber_length hx
        simp only [Except.ok.injEq, Prod.mk.injEq] at h
        rw [← h.2]
        simp only [List.length_cons] at this
        omega
    · simp at h

theorem skipKey_length {s rest : Symbols} (h : skipKey s = .ok ((), rest)) :
    rest.length < s.length := by
  have hs := skipSpace_length_le s
  unfold skipKey at h
  split at h
  · simp at h
  · rename_i hq
    rw [hq] at hs
    simp only [List.length_cons] at hs
    split at h
    · simp at h
    · rename_i hx
      have := skipString_length hx
      have := colon_length h
      omega
  · simp at h

theorem skipOpened_length_le {s rest : Symbols} {frame : Frame} {more : Bool}
    (h : skipOpened frame s = .ok (more, rest)) :
    rest.length ≤ s.length := by
  have hs := skipSpace_length_le s
  unfold skipOpened at h
  split at h
  · simp at h
  · rename_i hq
    rw [hq] at hs
    simp only [List.length_cons] at hs
    split at h <;> (simp only [Except.ok.injEq, Prod.mk.injEq] at h; rw [← h.2])
    · omega
    · simpa using hs

theorem skipBehind_length {s rest : Symbols} {frame : Frame} {more : Bool}
    (h : skipBehind frame s = .ok (more, rest)) : rest.length < s.length := by
  have hs := skipSpace_length_le s
  unfold skipBehind at h
  split at h
  · simp at h
  · rename_i hq
    rw [hq] at hs
    simp only [List.length_cons] at hs
    split at h
    · simp only [Except.ok.injEq, Prod.mk.injEq] at h
      rw [← h.2]
      omega
    · split at h
      · simp only [Except.ok.injEq, Prod.mk.injEq] at h
        rw [← h.2]
        omega
      · simp at h

-- Skips on from a place inside the given frames until the value is over. Each step takes symbols
-- away, except the one that leaves `opened`, which no step re-enters without taking a bracket.
def skipOn (place : Place) (frames : List Frame) (s : Symbols) : Result Unit :=
  match place, frames with
  | .behind, [] => .ok ((), s)
  | .behind, frame :: outer =>
    match h : skipBehind frame s with
    | .error e => .error e
    | .ok (true, rest) =>
      have : rest.length < s.length := skipBehind_length h
      skipOn frame.item (frame :: outer) rest
    | .ok (false, rest) =>
      have : rest.length < s.length := skipBehind_length h
      skipOn .behind outer rest
  | .opened, [] => .error .malformed
  | .opened, frame :: outer =>
    match h : skipOpened frame s with
    | .error e => .error e
    | .ok (true, rest) =>
      have : rest.length ≤ s.length := skipOpened_length_le h
      skipOn frame.item (frame :: outer) rest
    | .ok (false, rest) =>
      have : rest.length ≤ s.length := skipOpened_length_le h
      skipOn .behind outer rest
  | .key, frames =>
    match h : skipKey s with
    | .error e => .error e
    | .ok (_, rest) =>
      have : rest.length < s.length := skipKey_length h
      skipOn .value frames rest
  | .value, frames =>
    match h : skipStart s with
    | .error e => .error e
    | .ok (none, rest) =>
      have : rest.length < s.length := skipStart_length h
      skipOn .behind frames rest
    | .ok (some frame, rest) =>
      have : rest.length < s.length := skipStart_length h
      skipOn .opened (frame :: frames) rest
termination_by (s.length, if place = .opened then 1 else 0)
decreasing_by
  all_goals
    first
    | exact Prod.Lex.left _ _ this
    | (rcases Nat.lt_or_eq_of_le this with hlt | heq
       · exact Prod.Lex.left _ _ hlt
       · rw [heq]
         refine Prod.Lex.right _ ?_
         cases frame <;> simp [Frame.item])

theorem skipOn_length_le {place : Place} {frames : List Frame} {s rest : Symbols}
    (h : skipOn place frames s = .ok ((), rest)) : rest.length ≤ s.length := by
  fun_induction skipOn place frames s generalizing rest with
  | case1 s =>
    simp only [Except.ok.injEq, Prod.mk.injEq, true_and] at h
    exact Nat.le_of_eq (congrArg List.length h.symm)
  | case2 | case5 | case6 | case9 | case11 => simp at h
  | case3 s frame outer r hr hlt ih => exact Nat.le_trans (ih h) (Nat.le_of_lt hlt)
  | case4 s frame outer r hr hlt ih => exact Nat.le_trans (ih h) (Nat.le_of_lt hlt)
  | case7 s frame outer r hr hle ih => exact Nat.le_trans (ih h) hle
  | case8 s frame outer r hr hle ih => exact Nat.le_trans (ih h) hle
  | case10 s frames u r hr hlt ih => exact Nat.le_trans (ih h) (Nat.le_of_lt hlt)
  | case12 s frames r hr hlt ih => exact Nat.le_trans (ih h) (Nat.le_of_lt hlt)
  | case13 s frames frame r hr hlt ih => exact Nat.le_trans (ih h) (Nat.le_of_lt hlt)

-- Skips one value.
def skipValue (s : Symbols) : Result Unit :=
  skipOn .value [] s

theorem skipValue_length_le {s rest : Symbols} (h : skipValue s = .ok ((), rest)) :
    rest.length ≤ s.length :=
  skipOn_length_le h

end ChallengeLogin.Json
