import ChallengeLogin.Proofs.Json.Scalar

namespace ChallengeLogin.Json

section Values

variable {cs : List Char} {v : Value}

theorem spellsString_quote (s : String) : SpellsString (quote s) s :=
  .quoted (spellsChars_escape s.toList)

theorem spells_quote (s : String) : Spells (quote s) (.value (.string s)) :=
  .string (spellsString_quote s)

theorem spells_decimal (n : Nat) : Spells (decimal n) (.value (.number (decimal n))) := by
  have hparts := IsUnsigned.parts (isWhole_decimal n) .none .none
  rw [List.append_nil, List.append_nil] at hparts
  exact .number (.positive hparts)

theorem isBlank_nil : IsBlank [] := by
  intro c hc
  cases hc

theorem Spells.unpadded (h : Spells cs (.value v)) : Spells cs (.padded v) := by
  have hpadded := Spells.padded isBlank_nil h isBlank_nil
  rwa [List.nil_append, List.append_nil] at hpadded

theorem spells_member (name : String) (h : Spells cs (.value v)) :
    Spells (member name cs) (.member name v) :=
  .member isBlank_nil (spellsString_quote name) isBlank_nil h.unpadded

end Values

section Lists

variable {α : Type} {write : α → List Char} {value : α → Value}

theorem commas_cons (item : List Char) {items : List (List Char)} (h : items ≠ []) :
    commas (item :: items) = item ++ ',' :: commas items := by
  cases items with
  | nil => exact absurd rfl h
  | cons next items => rfl

theorem spells_items {a : α} {as : List α} (h : ∀ b, Spells (write b) (.value (value b))) :
    Spells (commas ((a :: as).map write)) (.items ((a :: as).map value)) := by
  induction as generalizing a with
  | nil => exact .lastItem (h a).unpadded
  | cons b bs ih =>
    rw [List.map_cons, commas_cons _ (by simp)]
    exact .moreItems (h a).unpadded ih

theorem spells_array (h : ∀ a, Spells (write a) (.value (value a))) (as : List α) :
    Spells (array (as.map write)) (.value (.array (as.map value))) := by
  cases as with
  | nil => exact .emptyArray isBlank_nil
  | cons a as => exact .array (spells_items h)

end Lists

-- A member with the text of its value and the value that the text spells
structure Entry where
  name : String
  text : List Char
  value : Value
  spells : Spells text (.value value)

namespace Entry

def written (entry : Entry) : List Char :=
  member entry.name entry.text

def spelled (entry : Entry) : String × Value :=
  (entry.name, entry.value)

variable {entry : Entry} {entries : List Entry}

theorem spells_members :
    Spells (commas ((entry :: entries).map written))
      (.members ((entry :: entries).map spelled)) := by
  induction entries generalizing entry with
  | nil => exact .lastMember (spells_member entry.name entry.spells)
  | cons next entries ih =>
    rw [List.map_cons, commas_cons _ (by simp)]
    exact .moreMembers (spells_member entry.name entry.spells) ih

theorem spells_object (entries : List Entry) :
    Spells (object (entries.map written)) (.value (.object (entries.map spelled))) := by
  cases entries with
  | nil => exact .emptyObject isBlank_nil
  | cons entry entries => exact .object spells_members

theorem spellsText_object (entries : List Entry) :
    SpellsText (String.ofList (object (entries.map written))) (.object (entries.map spelled)) := by
  rw [SpellsText, String.toList_ofList]
  exact (spells_object entries).unpadded

end Entry

end ChallengeLogin.Json
