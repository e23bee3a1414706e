import ChallengeLogin.Proofs.Json.Taking
import ChallengeLogin.Proofs.Json.Written

namespace ChallengeLogin.Json

open ChallengeLogin.Text

variable {α : Type}

-- The reader takes the text for the value, in front of any rest that a value cannot run into.
structure Reader.Reads (reader : Reader α) (text : List Char) (a : α) : Prop where
  run : ∀ {rest}, Detached rest → reader.run (text.map some ++ rest) = .ok (a, rest)

namespace Reader

variable {reader : Reader α} {text : List Char} {a : α}

-- What is taken is read as what is made of it.
theorem Takes.reads {take : Value → Option α} {v : Value} (h : reader.Takes take)
    (hs : Spells text (.value v)) (hv : take v = some a) : reader.Reads text a where
  run hrest := by
    have hgives := h.gives hs hrest
    rwa [hv] at hgives

-- Two texts that one reader takes cannot meet unless they hold the same value.
theorem Reads.cancel {text' : List Char} {a' : α} (h : reader.Reads text a)
    (h' : reader.Reads text' a') {rest rest' : List Char} (hrest : Detached (rest.map some))
    (hrest' : Detached (rest'.map some)) (heq : text ++ rest = text' ++ rest') :
    a = a' ∧ rest = rest' := by
  have hrun := h.run hrest
  have hrun' := h'.run hrest'
  rw [← List.map_append] at hrun hrun'
  rw [heq, hrun'] at hrun
  simp only [Except.ok.injEq, Prod.mk.injEq] at hrun
  exact ⟨hrun.1.symm, ((List.map_inj_right fun _ _ => Option.some.inj).mp hrun.2).symm⟩

theorem reads_quote (s : String) : Reader.string.Reads (quote s) s :=
  takes_string.reads (spells_quote s) rfl

theorem plain_decimal (n : Nat) : Plain (decimal n) n :=
  ⟨fun _ => isDigit_of_mem_decimal, ofDigitChars_decimal n⟩

theorem reads_decimal {limit n : Nat} (hlimit : limit ≤ maxUnsigned) (hn : n ≤ limit) :
    (Reader.natural limit).Reads (decimal n) n :=
  (takes_natural hlimit).reads (spells_decimal n)
    (Value.natural?_eq_some_iff.mpr ⟨decimal n, rfl, plain_decimal n, hn⟩)

end Reader

end ChallengeLogin.Json
