import ChallengeLogin.Proofs.Json.Skipping

namespace ChallengeLogin.Json

open ChallengeLogin.Text

variable {α β : Type}

-- A result that has what was to be taken in front of the rest, or a fault where that is nothing
def Gives (result : Result α) (rest : Symbols) : Option α → Prop
  | some a => result = .ok (a, rest)
  | none => ∃ fault, result = .error fault

section Results

variable {result : Result α} {taken : Option α} {left rest : Symbols}

theorem Gives.map (h : Gives result rest taken) (f : α → β) :
    Gives (result.map fun r => (f r.1, r.2)) rest (taken.map f) := by
  cases taken with
  | none =>
    obtain ⟨fault, rfl⟩ := h
    exact ⟨fault, rfl⟩
  | some a =>
    have hok : result = .ok (a, rest) := h
    rw [hok]
    rfl

-- What goes on with what has been taken, if there is anything to go on with
theorem Gives.bind {next : α × Symbols → Result β} {others : α → Option β}
    (h : Gives result left taken) (hnext : ∀ a, Gives (next (a, left)) rest (others a)) :
    Gives (result.bind next) rest (taken.bind others) := by
  cases taken with
  | none =>
    obtain ⟨fault, rfl⟩ := h
    exact ⟨fault, rfl⟩
  | some a =>
    have hok : result = .ok (a, left) := h
    rw [hok]
    exact hnext a

end Results

namespace Value

-- The string that a value is, if it is one
def string? : Value → Option String
  | .string s => some s
  | _ => none

-- The number that plain digits spell, if a value is made of them and within the limit
def natural? (limit : Nat) : Value → Option Nat
  | .number cs =>
    if cs.all Char.isDigit && Nat.ofDigitChars 10 cs 0 ≤ limit then some (Nat.ofDigitChars 10 cs 0)
    else none
  | _ => none

-- What can be taken from all items of an array
def list? (take : Value → Option α) : Value → Option (List α)
  | .array vs => vs.mapM take
  | _ => none

end Value

-- Digits, and nothing else, that write a number
def Plain (digits : List Char) (n : Nat) : Prop :=
  (∀ c ∈ digits, c.isDigit = true) ∧ Nat.ofDigitChars 10 digits 0 = n

section Taken

variable {v : Value}

theorem Value.string?_eq_some_iff {s : String} : v.string? = some s ↔ v = .string s := by
  cases v <;> simp [Value.string?]

theorem Value.natural?_eq_some_iff {limit n : Nat} :
    v.natural? limit = some n ↔ ∃ digits, v = .number digits ∧ Plain digits n ∧ n ≤ limit := by
  constructor
  · intro h
    cases v with
    | number digits =>
      rw [Value.natural?] at h
      split at h
      · rename_i hboth
        obtain ⟨hall, hle⟩ := (Bool.and_eq_true _ _).mp hboth
        obtain rfl := Option.some.inj h
        exact ⟨digits, rfl, ⟨List.all_eq_true.mp hall, rfl⟩, of_decide_eq_true hle⟩
      · cases h
    | _ => cases h
  · rintro ⟨digits, rfl, ⟨hall, rfl⟩, hle⟩
    rw [Value.natural?, List.all_eq_true.mpr hall, decide_eq_true hle]
    rfl

theorem mapM_cons_eq (take : Value → Option α) (v : Value) (vs : List Value) :
    (v :: vs).mapM take = (take v).bind fun a => (vs.mapM take).map (a :: ·) := by
  rw [List.mapM_cons]
  cases take v with
  | none => rfl
  | some a => cases vs.mapM take <;> rfl

-- What writes single items writes lists of them.
theorem mapM_eq_some_iff {take : Value → Option α} {write : α → Value}
    (h : ∀ v a, take v = some a ↔ v = write a) {vs : List Value} {as : List α} :
    vs.mapM take = some as ↔ vs = as.map write := by
  induction vs generalizing as with
  | nil => cases as <;> simp
  | cons v vs ih =>
    rw [mapM_cons_eq]
    cases as with
    | nil => simp [Option.bind_eq_some_iff]
    | cons a as => simp [Option.bind_eq_some_iff, h, ih]

theorem Value.list?_eq_some_iff {take : Value → Option α} {write : α → Value}
    (h : ∀ v a, take v = some a ↔ v = write a) {as : List α} :
    v.list? take = some as ↔ v = .array (as.map write) := by
  cases v with
  | array vs =>
    rw [Value.list?, mapM_eq_some_iff h, Value.array.injEq]
  | _ => simp [Value.list?]

end Taken

-- The reader takes these values, however they are spelled, and ignores blanks in front.
structure Reader.Takes (reader : Reader α) (take : Value → Option α) : Prop where
  skips : ∀ s, reader.run (skipSpace s) = reader.run s
  gives : ∀ {cs v rest}, Spells cs (.value v) → Detached rest →
    Gives (reader.run (cs.map some ++ rest)) rest (take v)

namespace Reader

section Padding

variable {reader : Reader α} {take : Value → Option α} {cs : List Char} {v : Value}
  {rest : Symbols}

-- Blanks around a value change nothing but what is left of the blanks behind it.
theorem Takes.padded (h : reader.Takes take) (hs : Spells cs (.padded v)) (hrest : Detached rest) :
    ∃ left, Gives (reader.run (cs.map some ++ rest)) left (take v) ∧
      skipSpace left = skipSpace rest := by
  cases hs with
  | @padded front cs back _ hfront hvalue hback =>
    refine ⟨back.map some ++ rest, ?_, skipSpace_blank hback rest⟩
    rw [List.map_append, List.append_assoc, ← h.skips, skipSpace_blank hfront, h.skips,
      List.map_append, List.append_assoc]
    exact h.gives hvalue (detached_blank hback hrest)

theorem map_run (f : α → β) (s : Symbols) :
    (reader.map f).run s = (reader.run s).map fun r => (f r.1, r.2) := by
  simp only [Reader.map]
  cases reader.run s <;> rfl

theorem Takes.map (h : reader.Takes take) (f : α → β) :
    (reader.map f).Takes fun v => (take v).map f where
  skips s := by rw [map_run, map_run, h.skips]
  gives {cs v rest} hs hrest := by
    rw [map_run]
    exact (h.gives hs hrest).map f

end Padding

section Heads

variable {v : Value} {c : Char}

-- The first character of a value tells its kind.
theorem string_of_opens (h : v.Opens '"') : ∃ s, v = .string s := by
  cases v with
  | string s => exact ⟨s, rfl⟩
  | bool b => cases b <;> simp [Value.Opens] at h
  | _ => simp [Value.Opens, startsNumber] at h

theorem array_of_opens (h : v.Opens '[') : ∃ items, v = .array items := by
  cases v with
  | array items => exact ⟨items, rfl⟩
  | bool b => cases b <;> simp [Value.Opens] at h
  | _ => simp [Value.Opens, startsNumber] at h

theorem number_of_opens (h : v.Opens c) (hc : startsNumber c = true) :
    ∃ text, v = .number text := by
  cases v with
  | number text => exact ⟨text, rfl⟩
  | bool b =>
    subst h
    cases b <;> simp [startsNumber] at hc
  | _ =>
    subst h
    simp [startsNumber] at hc

end Heads

section Scalars

variable {cs : List Char} {rest : Symbols}

theorem stringValue_spelled {s : String} (h : SpellsString cs s) (rest : Symbols) :
    stringValue (cs.map some ++ rest) = .ok (s, rest) := by
  cases h with
  | quoted hps =>
    have hbody := stringBody_spelled hps rest
    have hspace : isSpace (some '"') = false := by decide
    rw [bracketed, stringValue, skipSpace_cons _ hspace]
    simp only [hbody, String.ofList_toList]

theorem takes_string : Reader.string.Takes Value.string? where
  skips s := by simp only [Reader.string, stringValue, skipSpace_skipSpace]
  gives {cs v rest} hs _ := by
    obtain ⟨c, tail, hcs, hopens⟩ := head_of_value hs
    by_cases hc : c = '"'
    · subst hc
      obtain ⟨s, rfl⟩ := string_of_opens hopens
      cases hs with
      | string hstring => exact stringValue_spelled hstring rest
    · have hnone : v.string? = none := by
        cases v with
        | string s => exact absurd hopens hc
        | _ => rfl
      rw [hnone, hcs]
      refine ⟨refuse (some c :: (tail.map some ++ rest)), ?_⟩
      simp only [Reader.string, List.map_cons, List.cons_append, stringValue,
        skipSpace_cons _ hopens.starts.1]
      split
      · rename_i hcons
        exact absurd (Option.some.inj (List.cons.inj hcons).1) hc
      · rfl

-- A number that is made of digits alone is plain.
theorem isWhole_of_digits (h : IsNumber cs) (hall : ∀ c ∈ cs, c.isDigit = true) : IsWhole cs := by
  cases h with
  | negative h => exact absurd (hall '-' List.mem_cons_self) (by decide)
  | positive h =>
    obtain ⟨hwhole, hfraction, hexponent⟩ := h
    cases hfraction with
    | digits hdigits => exact absurd (hall '.' (by simp)) (by decide)
    | none =>
      cases hexponent with
      | none => simpa using hwhole
      | @unsigned e ds he hdigits =>
        have hdigit := hall e (by simp)
        rcases he with rfl | rfl <;> cases hdigit
      | @signed e sign ds he hsign hdigits =>
        have hdigit := hall e (by simp)
        rcases he with rfl | rfl <;> cases hdigit

-- The number that a text spells is taken if it is plain and within the limit.
theorem gives_number {limit : Nat} (hlimit : limit ≤ maxUnsigned) (h : IsNumber cs)
    (hrest : Detached rest) :
    Gives (naturalValue limit (cs.map some ++ rest)) rest (Value.natural? limit (.number cs)) := by
  obtain ⟨c, tail, rfl, hopens⟩ := head_of_value (.number h)
  have hspace := hopens.starts.1
  have hstarts : startsNumber c = true := hopens
  by_cases hplain : IsWhole (c :: tail) ∧ Nat.ofDigitChars 10 (c :: tail) 0 ≤ maxUnsigned
  · obtain ⟨hwhole, hmax⟩ := hplain
    have hall : (c :: tail).all Char.isDigit = true := List.all_eq_true.mpr hwhole.1.2
    have hnumber := number_of_whole hwhole hmax hrest
    rw [List.map_cons, List.cons_append] at hnumber ⊢
    rw [naturalValue, skipSpace_cons _ hspace, Value.natural?, hall]
    simp only [hstarts, if_true, hnumber]
    by_cases hle : Nat.ofDigitChars 10 (c :: tail) 0 ≤ limit
    · simp [hle, Gives]
    · simp [hle, Gives]
  · have hnone : Value.natural? limit (.number (c :: tail)) = none := by
      rw [Value.natural?, if_neg]
      intro hboth
      obtain ⟨hall, hle⟩ := (Bool.and_eq_true _ _).mp hboth
      refine hplain ⟨isWhole_of_digits h (List.all_eq_true.mp hall), ?_⟩
      exact Nat.le_trans (of_decide_eq_true hle) hlimit
    have hlarge (hwhole : IsWhole (c :: tail)) :
        maxUnsigned < Nat.ofDigitChars 10 (c :: tail) 0 :=
      Nat.lt_of_not_le fun hmax => hplain ⟨hwhole, hmax⟩
    have hnumber := number_of_other h hlarge hrest
    rw [List.map_cons, List.cons_append] at hnumber ⊢
    rw [hnone, naturalValue, skipSpace_cons _ hspace]
    simp only [hstarts, if_true]
    rcases hnumber with hnumber | hnumber <;> rw [hnumber] <;> exact ⟨_, rfl⟩

theorem takes_natural {limit : Nat} (hlimit : limit ≤ maxUnsigned) :
    (Reader.natural limit).Takes (Value.natural? limit) where
  skips s := by simp only [Reader.natural, naturalValue, skipSpace_skipSpace]
  gives {cs v rest} hs hrest := by
    obtain ⟨c, tail, hcs, hopens⟩ := head_of_value hs
    by_cases hc : startsNumber c = true
    · obtain ⟨text, rfl⟩ := number_of_opens hopens hc
      cases hs with
      | number hnumber => exact gives_number hlimit hnumber hrest
    · have hnone : v.natural? limit = none := by
        cases v with
        | number text => exact absurd hopens hc
        | _ => rfl
      rw [hnone, hcs]
      refine ⟨refuse (some c :: (tail.map some ++ rest)), ?_⟩
      simp only [Reader.natural, List.map_cons, List.cons_append, naturalValue,
        skipSpace_cons _ hopens.starts.1, if_neg hc]

end Scalars

section Lists

variable {element : Reader α} {take : Value → Option α} {cs : List Char} {rest : Symbols}

theorem items_eq (element : Reader α) (s : Symbols) : items element s =
    (element.run s).bind fun r =>
      match afterItem r.2 with
      | .error e => .error e
      | .ok (false, rest) => .ok ([r.1], rest)
      | .ok (true, rest) => (items element rest).map fun q => (r.1 :: q.1, q.2) := by
  rw [items]
  split <;> rename_i h <;> simp only [h, Except.bind]
  split <;> rename_i h' <;> simp only [h']
  cases items element _ <;> rfl

theorem items_skipSpace (h : element.Takes take) (s : Symbols) :
    items element (skipSpace s) = items element s := by
  rw [items_eq, items_eq, h.skips]

theorem afterItem_end {s : Symbols} (h : skipSpace s = skipSpace (some ']' :: rest)) :
    afterItem s = .ok (false, rest) := by
  rw [afterItem, h, skipSpace_cons rest (by decide)]
  rfl

theorem afterItem_more {s next : Symbols} (h : skipSpace s = skipSpace (some ',' :: next))
    (hnext : StartsValue (skipSpace next)) : afterItem s = .ok (true, skipSpace next) := by
  obtain ⟨c, tail, hstarts, -, hc⟩ := hnext
  rw [afterItem, h, skipSpace_cons next (by decide)]
  simp [hstarts, hc]

-- By induction on the items; an item that is not taken makes an end of the reading.
theorem gives_items (h : element.Takes take) {vs : List Value} (hs : Spells cs (.items vs))
    (rest : Symbols) :
    Gives (items element (cs.map some ++ some ']' :: rest)) rest (vs.mapM take) := by
  induction vs generalizing cs with
  | nil => cases hs
  | cons v vs ih =>
    rw [items_eq, mapM_cons_eq]
    cases hs with
    | lastItem hitem =>
      have hclose : Detached (some ']' :: rest) := detached_cons (by decide) rest
      obtain ⟨left, hgives, hleft⟩ := h.padded hitem hclose
      refine hgives.bind fun a => ?_
      simp only [afterItem_end hleft]
      rfl
    | @moreItems cs ds _ _ hitem hitems =>
      have hcomma : Detached (some ',' :: (ds.map some ++ some ']' :: rest)) :=
        detached_cons (by decide) _
      obtain ⟨left, hgives, hleft⟩ := h.padded hitem hcomma
      have hafter := afterItem_more hleft (startsValue_of_items hitems (some ']' :: rest))
      rw [List.map_append, List.append_assoc, List.map_cons, List.cons_append]
      refine hgives.bind fun a => ?_
      simp only [hafter, items_skipSpace h]
      exact (ih hitems).map (a :: ·)

theorem gives_list (h : element.Takes take) {vs : List Value}
    (hs : Spells cs (.value (.array vs))) (rest : Symbols) :
    Gives (listValue element (cs.map some ++ rest)) rest (vs.mapM take) := by
  have hopen : isSpace (some '[') = false := by decide
  have hclose : isSpace (some ']') = false := by decide
  cases hs with
  | emptyArray hbs =>
    rw [bracketed, listValue, skipSpace_cons _ hopen]
    simp only [skipSpace_blank hbs, skipSpace_cons rest hclose]
    rfl
  | @array cs _ hitems =>
    obtain ⟨c, tail, hstarts, -, hc⟩ := startsValue_of_items hitems (some ']' :: rest)
    have hread := gives_items h hitems rest
    rw [← items_skipSpace h, hstarts] at hread
    rw [bracketed, listValue, skipSpace_cons _ hopen]
    simp only [hstarts]
    split
    · rename_i hcons
      cases hcons
    · rename_i hcons
      exact absurd (Option.some.inj (List.cons.inj hcons).1) hc
    · exact hread

theorem takes_list (h : element.Takes take) : element.list.Takes (Value.list? take) where
  skips s := by simp only [Reader.list, listValue, skipSpace_skipSpace]
  gives {cs v rest} hs hrest := by
    obtain ⟨c, tail, hcs, hopens⟩ := head_of_value hs
    by_cases hc : c = '['
    · subst hc
      obtain ⟨vs, rfl⟩ := array_of_opens hopens
      exact gives_list h hs rest
    · have hnone : v.list? take = none := by
        cases v with
        | array vs => exact absurd hopens hc
        | _ => rfl
      rw [hnone, hcs]
      refine ⟨refuse (some c :: (tail.map some ++ rest)), ?_⟩
      simp only [Reader.list, List.map_cons, List.cons_append, listValue,
        skipSpace_cons _ hopens.starts.1]
      split
      · rename_i hcons
        exact absurd (Option.some.inj (List.cons.inj hcons).1) hc
      · rfl

end Lists

end Reader

end ChallengeLogin.Json
