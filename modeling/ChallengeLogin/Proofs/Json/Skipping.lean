import ChallengeLogin.Proofs.Json.Numbers

namespace ChallengeLogin.Json

open ChallengeLogin.Text

section Heads

-- The character that a value starts with
def Value.Opens : Value → Char → Prop
  | .null, c => c = 'n'
  | .bool b, c => c = if b then 't' else 'f'
  | .number _, c => startsNumber c = true
  | .string _, c => c = '"'
  | .array _, c => c = '['
  | .object _, c => c = '\x7b'

variable {v : Value} {c : Char} {cs bs : List Char} {name : String} {rest : Symbols}

theorem head_of_value (h : Spells cs (.value v)) : ∃ c tail, cs = c :: tail ∧ v.Opens c := by
  cases h with
  | null => exact ⟨_, _, rfl, rfl⟩
  | yes => exact ⟨_, _, rfl, rfl⟩
  | no => exact ⟨_, _, rfl, rfl⟩
  | number hnumber =>
    cases hnumber with
    | positive hunsigned =>
      obtain ⟨c, tail, rfl, hc⟩ := head_of_isUnsigned hunsigned
      exact ⟨c, tail, rfl, startsNumber_of_isDigit hc⟩
    | negative => exact ⟨_, _, rfl, rfl⟩
  | string hstring =>
    cases hstring
    exact ⟨_, _, rfl, rfl⟩
  | emptyArray => exact ⟨_, _, rfl, rfl⟩
  | array => exact ⟨_, _, rfl, rfl⟩
  | emptyObject => exact ⟨_, _, rfl, rfl⟩
  | object => exact ⟨_, _, rfl, rfl⟩

-- No value starts with a blank or with the end of an array.
theorem Value.Opens.starts (h : v.Opens c) : isSpace (some c) = false ∧ c ≠ ']' := by
  cases v with
  | null =>
    subst h
    decide
  | bool b =>
    subst h
    cases b <;> decide
  | number text =>
    refine ⟨isSpace_of_startsNumber h, ?_⟩
    rintro rfl
    cases h
  | string s =>
    subst h
    decide
  | array items =>
    subst h
    decide
  | object members =>
    subst h
    decide

-- A text that starts with a value, or with what may be one: no blank and not the end of an array
def StartsValue (s : Symbols) : Prop :=
  ∃ c tail, s = some c :: tail ∧ isSpace (some c) = false ∧ c ≠ ']'

theorem StartsValue.append {s : Symbols} (h : StartsValue s) (rest : Symbols) :
    StartsValue (s ++ rest) := by
  obtain ⟨c, tail, rfl, hc⟩ := h
  exact ⟨c, tail ++ rest, rfl, hc⟩

theorem StartsValue.skipSpace {s : Symbols} (h : StartsValue s) : skipSpace s = s := by
  obtain ⟨c, tail, rfl, hc, -⟩ := h
  exact skipSpace_cons tail hc

theorem startsValue_of_value (h : Spells cs (.value v)) : StartsValue (cs.map some) := by
  obtain ⟨c, tail, rfl, hopens⟩ := head_of_value h
  exact ⟨c, tail.map some, rfl, hopens.starts⟩

theorem startsValue_of_padded (h : Spells cs (.padded v)) (rest : Symbols) :
    StartsValue (skipSpace (cs.map some ++ rest)) := by
  cases h with
  | padded hfront hvalue hback =>
    have hstarts := (startsValue_of_value hvalue).append
    rw [List.map_append, List.append_assoc, skipSpace_blank hfront, List.map_append,
      List.append_assoc, (hstarts _).skipSpace]
    exact hstarts _

theorem startsValue_of_items {vs : List Value} (h : Spells cs (.items vs)) (rest : Symbols) :
    StartsValue (skipSpace (cs.map some ++ rest)) := by
  cases h with
  | lastItem hitem => exact startsValue_of_padded hitem rest
  | moreItems hitem =>
    rw [List.map_append, List.append_assoc]
    exact startsValue_of_padded hitem _

theorem quote_of_member (h : Spells cs (.member name v)) (rest : Symbols) :
    ∃ tail, skipSpace (cs.map some ++ rest) = some '"' :: tail := by
  cases h with
  | member hfront hkey =>
    cases hkey
    rw [List.map_append, List.append_assoc, skipSpace_blank hfront]
    exact ⟨_, skipSpace_cons _ (by decide)⟩

theorem quote_of_members {ms : List (String × Value)} (h : Spells cs (.members ms))
    (rest : Symbols) : ∃ tail, skipSpace (cs.map some ++ rest) = some '"' :: tail := by
  cases h with
  | lastMember hmember => exact quote_of_member hmember rest
  | moreMembers hmember =>
    rw [List.map_append, List.append_assoc]
    exact quote_of_member hmember _

theorem detached_blank (hbs : IsBlank bs) (h : Detached rest) : Detached (bs.map some ++ rest) := by
  have hblank : ∀ b ∈ blanks, b ∈ delimiters := forall_of_all (by decide)
  cases bs with
  | nil => exact h
  | cons b bs => exact ⟨b, _, rfl, hblank b (hbs b List.mem_cons_self)⟩

end Heads

section Steps

variable (frame : Frame) (frames outer : List Frame) (s : Symbols)

-- The skip, one equation for each place
theorem skipOn_behind : skipOn .behind (frame :: outer) s =
    match skipBehind frame s with
    | .error e => .error e
    | .ok (true, rest) => skipOn frame.item (frame :: outer) rest
    | .ok (false, rest) => skipOn .behind outer rest := by
  rw [skipOn]
  split <;> rename_i h <;> simp only [h]

theorem skipOn_opened : skipOn .opened (frame :: outer) s =
    match skipOpened frame s with
    | .error e => .error e
    | .ok (true, rest) => skipOn frame.item (frame :: outer) rest
    | .ok (false, rest) => skipOn .behind outer rest := by
  rw [skipOn]
  split <;> rename_i h <;> simp only [h]

theorem skipOn_key : skipOn .key frames s =
    match skipKey s with
    | .error e => .error e
    | .ok (_, rest) => skipOn .value frames rest := by
  rw [skipOn]
  split <;> rename_i h <;> simp only [h]

theorem skipOn_value : skipOn .value frames s =
    match skipStart s with
    | .error e => .error e
    | .ok (none, rest) => skipOn .behind frames rest
    | .ok (some frame, rest) => skipOn .opened (frame :: frames) rest := by
  rw [skipOn.eq_def]
  simp only
  split <;> rename_i h <;> simp only [h]

-- Blanks in front of a value or a key, and behind a value inside a frame, make no difference.
theorem skipOn_value_skipSpace : skipOn .value frames (skipSpace s) = skipOn .value frames s := by
  rw [skipOn_value, skipOn_value, skipStart, skipStart, skipSpace_skipSpace]

theorem skipOn_key_skipSpace : skipOn .key frames (skipSpace s) = skipOn .key frames s := by
  rw [skipOn_key, skipOn_key, skipKey, skipKey, skipSpace_skipSpace]

theorem skipOn_behind_skipSpace :
    skipOn .behind (frame :: outer) (skipSpace s) = skipOn .behind (frame :: outer) s := by
  rw [skipOn_behind, skipOn_behind, skipBehind, skipBehind, skipSpace_skipSpace]

end Steps

section Blanks

variable {bs : List Char} (frame : Frame) (frames outer : List Frame) (s : Symbols)

theorem skipOn_value_blank (h : IsBlank bs) :
    skipOn .value frames (bs.map some ++ s) = skipOn .value frames s := by
  rw [← skipOn_value_skipSpace, skipSpace_blank h, skipOn_value_skipSpace]

theorem skipOn_key_blank (h : IsBlank bs) :
    skipOn .key frames (bs.map some ++ s) = skipOn .key frames s := by
  rw [← skipOn_key_skipSpace, skipSpace_blank h, skipOn_key_skipSpace]

theorem skipOn_behind_blank (h : IsBlank bs) :
    skipOn .behind (frame :: outer) (bs.map some ++ s) = skipOn .behind (frame :: outer) s := by
  rw [← skipOn_behind_skipSpace, skipSpace_blank h, skipOn_behind_skipSpace]

end Blanks

section Skips

-- What skipping makes of a part: it leads from in front of it to behind it, or, for the parts that
-- stand inside a bracket, to behind the bracket that closes.
def Skips (cs : List Char) : Part → Prop
  | .value _ => ∀ frames rest, Detached rest →
      skipOn .value frames (cs.map some ++ rest) = skipOn .behind frames rest
  | .padded _ => ∀ frame outer rest, Detached rest →
      skipOn .value (frame :: outer) (cs.map some ++ rest) = skipOn .behind (frame :: outer) rest
  | .items _ => ∀ outer rest,
      skipOn .value (.list :: outer) (cs.map some ++ some ']' :: rest) = skipOn .behind outer rest
  | .member _ _ => ∀ outer rest, Detached rest →
      skipOn .key (.object :: outer) (cs.map some ++ rest) = skipOn .behind (.object :: outer) rest
  | .members _ => ∀ outer rest,
      skipOn .key (.object :: outer) (cs.map some ++ some '\x7d' :: rest) =
        skipOn .behind outer rest

theorem detached_cons {c : Char} (h : c ∈ delimiters) (s : Symbols) : Detached (some c :: s) :=
  ⟨c, s, rfl, h⟩

theorem skips_of_skipStart {cs : List Char} {v : Value}
    (h : ∀ rest, Detached rest → skipStart (cs.map some ++ rest) = .ok (none, rest)) :
    Skips cs (.value v) := by
  intro frames rest hrest
  rw [skipOn_value, h rest hrest]

theorem skipStart_string {cs : List Char} {s : String} (h : SpellsString cs s) (rest : Symbols) :
    skipStart (cs.map some ++ rest) = .ok (none, rest) := by
  cases h with
  | quoted hps =>
    have hskip := skipString_spelled hps rest
    simp [skipStart, skipSpace_cons _ (show isSpace (some '"') = false by decide), hskip]

theorem skipStart_number {cs : List Char} (h : IsNumber cs) {rest : Symbols}
    (hrest : Detached rest) : skipStart (cs.map some ++ rest) = .ok (none, rest) := by
  obtain ⟨c, tail, rfl, hopens⟩ := head_of_value (.number h)
  have hskip := skipNumber_spelled h hrest
  have hstarts : startsNumber c = true := hopens
  have hne : ∀ b ∈ ['[', '\x7b', '"', 'n', 't', 'f'], c ≠ b := by
    rintro b hb rfl
    have hnone : ∀ b ∈ ['[', '\x7b', '"', 'n', 't', 'f'], startsNumber b = false :=
      forall_of_all (by decide)
    cases hstarts.symm.trans (hnone c hb)
  simp only [List.forall_mem_cons] at hne
  rw [List.map_cons, List.cons_append] at hskip ⊢
  simp [skipStart, skipSpace_cons _ hopens.starts.1, hstarts, hskip, hne]

theorem skipKey_spelled {key back : List Char} {name : String} (hkey : SpellsString key name)
    (hback : IsBlank back) (rest : Symbols) :
    skipKey (key.map some ++ (back.map some ++ some ':' :: rest)) = .ok ((), rest) := by
  cases hkey with
  | quoted hps =>
    have hskip := skipString_spelled hps (back.map some ++ some ':' :: rest)
    simp [skipKey, skipSpace_cons _ (show isSpace (some '"') = false by decide), hskip, colon,
      skipSpace_blank hback, skipSpace_cons _ (show isSpace (some ':') = false by decide)]

theorem bracketed (opener closer : Char) (cs : List Char) (rest : Symbols) :
    (opener :: cs ++ [closer]).map some ++ rest =
      some opener :: (cs.map some ++ some closer :: rest) := by
  simp

theorem skipOn_list (frames : List Frame) (s : Symbols) :
    skipOn .value frames (some '[' :: s) = skipOn .opened (.list :: frames) s := by
  rw [skipOn_value]
  rfl

theorem skipOn_object (frames : List Frame) (s : Symbols) :
    skipOn .value frames (some '\x7b' :: s) = skipOn .opened (.object :: frames) s := by
  rw [skipOn_value]
  rfl

-- Behind the bracket that opens a frame: nothing but blanks, or an item
theorem skipOn_opened_empty {bs : List Char} (h : IsBlank bs) (frame : Frame) (outer : List Frame)
    (rest : Symbols) :
    skipOn .opened (frame :: outer) (bs.map some ++ some frame.closer :: rest) =
      skipOn .behind outer rest := by
  have hspace : isSpace (some frame.closer) = false := by cases frame <;> decide
  rw [skipOn_opened, skipOpened, skipSpace_blank h, skipSpace_cons _ hspace]
  simp

theorem skipOn_opened_item {c : Char} {s tail : Symbols} (frame : Frame) (outer : List Frame)
    (h : skipSpace s = some c :: tail) (hc : c ≠ frame.closer) :
    skipOn .opened (frame :: outer) s = skipOn frame.item (frame :: outer) (skipSpace s) := by
  rw [skipOn_opened, skipOpened, h]
  simp [hc]

-- By induction on the grammar: each part is skipped by skipping the parts that it is made of.
theorem skips_of_spells {cs : List Char} {part : Part} (h : Spells cs part) : Skips cs part := by
  induction h with
  | null => exact skips_of_skipStart fun rest _ => rfl
  | yes => exact skips_of_skipStart fun rest _ => rfl
  | no => exact skips_of_skipStart fun rest _ => rfl
  | number hnumber => exact skips_of_skipStart fun rest hrest => skipStart_number hnumber hrest
  | string hstring => exact skips_of_skipStart fun rest _ => skipStart_string hstring rest
  | emptyArray hbs =>
    intro frames rest hrest
    rw [bracketed, skipOn_list]
    exact skipOn_opened_empty hbs .list frames rest
  | array hitems ih =>
    intro frames rest hrest
    obtain ⟨c, tail, hstarts, -, hc⟩ := startsValue_of_items hitems (some ']' :: rest)
    rw [bracketed, skipOn_list, skipOn_opened_item .list frames hstarts hc]
    exact (skipOn_value_skipSpace _ _).trans (ih frames rest)
  | emptyObject hbs =>
    intro frames rest hrest
    rw [bracketed, skipOn_object]
    exact skipOn_opened_empty hbs .object frames rest
  | object hmembers ih =>
    intro frames rest hrest
    obtain ⟨tail, hquote⟩ := quote_of_members hmembers (some '\x7d' :: rest)
    rw [bracketed, skipOn_object, skipOn_opened_item .object frames hquote (by decide)]
    exact (skipOn_key_skipSpace _ _).trans (ih frames rest)
  | padded hfront hvalue hback ih =>
    intro frame outer rest hrest
    rw [List.map_append, List.append_assoc, skipOn_value_blank _ _ hfront, List.map_append,
      List.append_assoc, ih _ _ (detached_blank hback hrest), skipOn_behind_blank _ _ _ hback]
  | lastItem hitem ih =>
    intro outer rest
    rw [ih .list outer _ (detached_cons (by decide) rest), skipOn_behind, skipBehind,
      skipSpace_cons _ (by decide)]
    rfl
  | moreItems hitem hitems ih ihs =>
    intro outer rest
    rw [List.map_append, List.append_assoc, List.map_cons, List.cons_append,
      ih .list outer _ (detached_cons (by decide) _), skipOn_behind, skipBehind,
      skipSpace_cons _ (by decide)]
    exact ihs outer rest
  | member hfront hkey hback hvalue ih =>
    intro outer rest hrest
    simp only [List.map_append, List.map_cons, List.append_assoc, List.cons_append]
    rw [skipOn_key_blank _ _ hfront, skipOn_key, skipKey_spelled hkey hback]
    exact ih .object outer rest hrest
  | lastMember hmember ih =>
    intro outer rest
    rw [ih outer _ (detached_cons (by decide) rest), skipOn_behind, skipBehind,
      skipSpace_cons _ (by decide)]
    rfl
  | moreMembers hmember hmembers ih ihs =>
    intro outer rest
    rw [List.map_append, List.append_assoc, List.map_cons, List.cons_append,
      ih outer _ (detached_cons (by decide) _), skipOn_behind, skipBehind,
      skipSpace_cons _ (by decide)]
    exact ihs outer rest

-- What is left behind a value that is skipped differs from the rest by blanks only.
theorem skipValue_spelled {cs : List Char} {v : Value} (h : Spells cs (.padded v)) {rest : Symbols}
    (hrest : Detached rest) :
    ∃ left, skipValue (cs.map some ++ rest) = .ok ((), left) ∧
      skipSpace left = skipSpace rest := by
  cases h with
  | @padded front cs back _ hfront hvalue hback =>
    have hskips : Skips cs (.value v) := skips_of_spells hvalue
    refine ⟨back.map some ++ rest, ?_, skipSpace_blank hback rest⟩
    rw [skipValue, List.map_append, List.append_assoc, skipOn_value_blank _ _ hfront,
      List.map_append, List.append_assoc, hskips [] _ (detached_blank hback hrest), skipOn]

end Skips

end ChallengeLogin.Json
