import ChallengeLogin.CommandLine.Parser
import ChallengeLogin.Proofs.Text.Trimming

namespace ChallengeLogin.CommandLine

section Kinds

variable {text : String} {kind : Word}

-- A word that can be a value on its own: a single dash, or anything that does not start with one.
def IsValue (text : String) : Prop :=
  text = "-" ∨ text.toList.head? ≠ some '-'

instance : Decidable (IsValue text) :=
  inferInstanceAs (Decidable (_ ∨ _))

-- How the words of each kind are spelled
inductive Spells : String → Word → Prop
  | divider : Spells "--" .divider
  | long {name : String} (hname : '=' ∉ name.toList) (hnonempty : name ≠ "") :
      Spells (Opt.dashed name) (.long name none)
  | longEquals {name : String} (hname : '=' ∉ name.toList) (value : String) :
      Spells (Opt.dashed name ++ "=" ++ value) (.long name (some value))
  | letters {c : Char} (hc : c ≠ '-') (rest : List Char) :
      Spells (String.ofList ('-' :: c :: rest)) (.letters (c :: rest))
  | plain {text : String} (htext : IsValue text) : Spells text .plain

theorem toList_dashed (name : String) :
    (Opt.dashed name).toList = '-' :: '-' :: name.toList := by
  rw [Opt.dashed, String.toList_append]
  rfl

theorem toList_dashed_equals (name value : String) :
    (Opt.dashed name ++ "=" ++ value).toList =
      '-' :: '-' :: (name.toList ++ '=' :: value.toList) := by
  simp [toList_dashed]

-- Behind two dashes and something else there is a name, up to an equals sign.
theorem ofText_of_dashes {rest : List Char} (htext : text.toList = '-' :: '-' :: rest)
    (hrest : rest ≠ []) :
    Word.ofText text = .long (String.ofList (Text.cutAt (· == '=') rest).1)
      ((Text.cutAt (· == '=') rest).2.map String.ofList) := by
  obtain ⟨c, more, rfl⟩ := List.exists_cons_of_ne_nil hrest
  simp only [Word.ofText, htext]

theorem Spells.ofText_eq (h : Spells text kind) : Word.ofText text = kind := by
  cases h with
  | divider => rfl
  | @long name hname hnonempty =>
    have hrest : name.toList ≠ [] := fun hnil => hnonempty (String.toList_eq_nil_iff.mp hnil)
    rw [ofText_of_dashes (toList_dashed name) hrest, Text.cutAt_of_not_mem hname]
    simp
  | @longEquals name hname value =>
    rw [ofText_of_dashes (toList_dashed_equals name value) (by simp), Text.cutAt_append_cons hname]
    simp
  | letters hc rest => simp [Word.ofText, hc]
  | plain htext =>
    rcases htext with rfl | htext
    · rfl
    · unfold Word.ofText
      split <;> simp_all

-- Every word is spelled as its kind has it.
theorem spells_ofText (text : String) : Spells text (Word.ofText text) := by
  unfold Word.ofText
  split
  · rename_i htext
    rw [show text = "--" from String.toList_inj.mp htext]
    exact .divider
  · rename_i rest hrest htext
    by_cases hequals : '=' ∈ rest
    · obtain ⟨front, value, rfl, hfront⟩ := List.eq_append_cons_of_mem hequals
      have hword : text = Opt.dashed (String.ofList front) ++ "=" ++ String.ofList value := by
        rw [← String.toList_inj, htext, toList_dashed_equals, String.toList_ofList,
          String.toList_ofList]
      rw [Text.cutAt_append_cons hfront, hword]
      exact .longEquals (by rwa [String.toList_ofList]) _
    · have hword : text = Opt.dashed (String.ofList rest) := by
        rw [← String.toList_inj, htext, toList_dashed, String.toList_ofList]
      rw [Text.cutAt_of_not_mem hequals, hword]
      exact .long (by rwa [String.toList_ofList])
        fun hempty => hrest (String.ofList_eq_empty_iff.mp hempty)
  · rename_i c rest _ hc htext
    rw [show text = String.ofList ('-' :: c :: rest) by rw [← htext, String.ofList_toList]]
    exact .letters hc rest
  · rename_i hletters
    by_cases hdash : text.toList.head? = some '-'
    · obtain ⟨rest, hrest⟩ := List.head?_eq_some_iff.mp hdash
      cases rest with
      | nil => exact .plain (.inl (String.toList_inj.mp hrest))
      | cons c rest => exact absurd hrest (hletters c rest)
    · exact .plain (.inr hdash)

theorem ofText_eq_iff : Word.ofText text = kind ↔ Spells text kind :=
  ⟨fun h => h ▸ spells_ofText text, Spells.ofText_eq⟩

end Kinds

section Options

variable {options : List Opt} {opt other : Opt} {c : Char}

theorem Opt.name_inj (h : opt.name = other.name) : opt = other := by
  cases opt <;> cases other <;> first | rfl | exact absurd h (by decide)

theorem Opt.letter_inj (hopt : opt.letter? = some c) (hother : other.letter? = some c) :
    opt = other := by
  rw [← hopt] at hother
  cases opt <;> cases other <;> first | rfl | exact absurd hother (by decide)

theorem Opt.letter_ne_dash (h : opt.letter? = some c) : c ≠ '-' := by
  rintro rfl
  cases opt <;> exact absurd h (by decide)

theorem Opt.equals_not_mem_name (opt : Opt) : '=' ∉ opt.name.toList := by
  cases opt <;> decide

theorem Opt.name_ne_empty (opt : Opt) : opt.name ≠ "" := by
  cases opt <;> decide

-- An option of which nothing else is true is found where it is declared.
theorem find_of_unique {p : Opt → Bool} (hmem : opt ∈ options) (hopt : p opt = true)
    (hunique : ∀ other, p other = true → opt = other) : options.find? p = some opt := by
  cases hfind : options.find? p with
  | none => exact absurd hopt (List.find?_eq_none.mp hfind opt hmem)
  | some found => rw [hunique found (List.find?_some hfind)]

theorem find_name (hmem : opt ∈ options) : options.find? (·.name = opt.name) = some opt :=
  find_of_unique hmem (decide_eq_true rfl)
    fun _ hname => (Opt.name_inj (of_decide_eq_true hname)).symm

theorem find_letter (hmem : opt ∈ options) (hletter : opt.letter? = some c) :
    options.find? (·.letter? = some c) = some opt :=
  find_of_unique hmem (decide_eq_true hletter)
    fun _ hother => Opt.letter_inj hletter (of_decide_eq_true hother)

end Options

section Giving

-- An option as it is given: with a text if it takes a value, and without one otherwise
structure Given where
  opt : Opt
  value : Option String
  fits : value.isSome = decide (opt.use = .valued)
deriving DecidableEq, Repr

def Given.bare (opt : Opt) (huse : opt.use ≠ .valued) : Given :=
  ⟨opt, none, (decide_eq_false huse).symm⟩

def Given.valued (opt : Opt) (huse : opt.use = .valued) (text : String) : Given :=
  ⟨opt, some text, (decide_eq_true huse).symm⟩

-- What the letters behind a dash give, and the option that they leave to have the next word as
-- its value
inductive Letters (options : List Opt) : List Char → List Given → Option Opt → Prop
  | nil : Letters options [] [] none
  | bare {opt : Opt} {c : Char} {rest : List Char} {givens : List Given} {owed : Option Opt}
      (hmem : opt ∈ options) (hletter : opt.letter? = some c) (huse : opt.use ≠ .valued)
      (hrest : Letters options rest givens owed) :
      Letters options (c :: rest) (.bare opt huse :: givens) owed
  | owed {opt : Opt} {c : Char} (hmem : opt ∈ options) (hletter : opt.letter? = some c)
      (huse : opt.use = .valued) : Letters options [c] [] (some opt)
  | equals {opt : Opt} {c : Char} (hmem : opt ∈ options) (hletter : opt.letter? = some c)
      (huse : opt.use = .valued) (value : List Char) :
      Letters options (c :: '=' :: value) [.valued opt huse (String.ofList value)] none
  | joined {opt : Opt} {c first : Char} (hmem : opt ∈ options) (hletter : opt.letter? = some c)
      (huse : opt.use = .valued) (hfirst : first ≠ '=') (value : List Char) :
      Letters options (c :: first :: value) [.valued opt huse (String.ofList (first :: value))] none

-- What words give in front of the words that are left. The first word may be owed to an option.
inductive Gives (options : List Opt) : Option Opt → List String → List Given → List String → Prop
  | nothing (left : List String) : Gives options none left [] left
  | value {opt : Opt} {word : String} {words left : List String} {givens : List Given}
      (huse : opt.use = .valued) (hword : IsValue word)
      (hrest : Gives options none words givens left) :
      Gives options (some opt) (word :: words) (.valued opt huse word :: givens) left
  | long {opt : Opt} {words left : List String} {givens : List Given} (hmem : opt ∈ options)
      (huse : opt.use ≠ .valued) (hrest : Gives options none words givens left) :
      Gives options none (Opt.dashed opt.name :: words) (.bare opt huse :: givens) left
  | longEquals {opt : Opt} {words left : List String} {givens : List Given} (hmem : opt ∈ options)
      (huse : opt.use = .valued) (value : String) (hrest : Gives options none words givens left) :
      Gives options none ((Opt.dashed opt.name ++ "=" ++ value) :: words)
        (.valued opt huse value :: givens) left
  | longOwed {opt : Opt} {words left : List String} {givens : List Given} (hmem : opt ∈ options)
      (huse : opt.use = .valued) (hrest : Gives options (some opt) words givens left) :
      Gives options none (Opt.dashed opt.name :: words) givens left
  | letters {letters : List Char} {front givens : List Given} {owed : Option Opt}
      {words left : List String} (hletters : Letters options letters front owed)
      (hnonempty : letters ≠ []) (hrest : Gives options owed words givens left) :
      Gives options none (String.ofList ('-' :: letters) :: words) (front ++ givens) left

-- What the words of a command give, all of them. Two dashes may stand at their end.
def GivesAll (options : List Opt) (words : List String) (givens : List Given) : Prop :=
  Gives options none words givens [] ∨ Gives options none words givens ["--"]

variable {options : List Opt} {letters : List Char} {givens : List Given} {owed : Option Opt}

-- Letters that give something are a word of their own.
theorem Letters.spells (h : Letters options letters givens owed) (hnonempty : letters ≠ []) :
    Spells (String.ofList ('-' :: letters)) (.letters letters) := by
  cases h with
  | nil => exact absurd rfl hnonempty
  | bare hmem hletter huse hrest => exact .letters (Opt.letter_ne_dash hletter) _
  | owed hmem hletter huse => exact .letters (Opt.letter_ne_dash hletter) _
  | equals hmem hletter huse value => exact .letters (Opt.letter_ne_dash hletter) _
  | joined hmem hletter huse hfirst value => exact .letters (Opt.letter_ne_dash hletter) _

end Giving

end ChallengeLogin.CommandLine
