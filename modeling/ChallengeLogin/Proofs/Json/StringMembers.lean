import ChallengeLogin.Proofs.Json.Occurrences

namespace ChallengeLogin

open ChallengeLogin.Json (Value Settled)

def IsText (v : Value) : Prop :=
  ∃ s, v = .string s

section Strings

variable {vs : List Value} {new : Option String}

-- A string is taken for one.
theorem string?_of_isText (v : Value) (h : IsText v) : ∃ s, v.string? = some s := by
  obtain ⟨s, rfl⟩ := h
  exact ⟨s, rfl⟩

-- The only string of a name that occurs is the one its place holds.
theorem only_string (h : Settled Value.string? none vs new) (hne : vs ≠ []) :
    vs = [.string (new.getD "")] := by
  obtain ⟨v, s, rfl, hread, rfl⟩ := h.only hne
  rw [Value.string?_eq_some_iff.mp hread, Option.getD_some]

theorem string_or_absent (h : Settled Value.string? none vs new) :
    vs = [.string (new.getD "")] ∨ vs = [] ∧ new.getD "" = "" := by
  cases h with
  | kept => exact .inr ⟨rfl, rfl⟩
  | filled _ hread => exact .inl (by rw [Value.string?_eq_some_iff.mp hread, Option.getD_some])

theorem string_unique {s t : String} (h : vs = [.string s]) (h' : vs = [.string t]) : s = t :=
  Value.string.inj (List.singleton_inj.mp (h.symm.trans h'))

theorem optional_string_unique {s t : String} (h : vs = [.string s] ∨ vs = [] ∧ s = "")
    (h' : vs = [.string t] ∨ vs = [] ∧ t = "") : s = t := by
  rcases h with hone | ⟨hnone, hempty⟩
  · rcases h' with hone' | ⟨hnone', -⟩
    · exact string_unique hone hone'
    · cases hone.symm.trans hnone'
  · rcases h' with hone' | ⟨-, hempty'⟩
    · cases hnone.symm.trans hone'
    · exact hempty.trans hempty'.symm

end Strings

end ChallengeLogin
