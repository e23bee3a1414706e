import ChallengeLogin.Proofs.Http.Cookies

namespace ChallengeLogin.Http

open ChallengeLogin.Text

-- Lists with the same lines, but for the letter case of names and the order in which lines of
-- different names stand
inductive Rearranged : List Header → List Header → Prop
  | refl (headers : List Header) : Rearranged headers headers
  | recase {a b : Header} (hname : sameName a.name b.name = true) (hvalue : a.value = b.value)
      (rest : List Header) : Rearranged (a :: rest) (b :: rest)
  | swap {a b : Header} (hname : sameName a.name b.name = false) (rest : List Header) :
      Rearranged (a :: b :: rest) (b :: a :: rest)
  | cons (header : Header) {headers others : List Header} (h : Rearranged headers others) :
      Rearranged (header :: headers) (header :: others)
  | trans {headers between others : List Header} (h : Rearranged headers between)
      (h' : Rearranged between others) : Rearranged headers others

-- Lists that differ only in lines of one name that stand behind the first line of that name
def DifferLater (name : String) (headers others : List Header) : Prop :=
  ∃ before line rest rest', sameName line.name name = true ∧
    headers = before ++ line :: rest ∧ others = before ++ line :: rest' ∧
    without name rest = without name rest'

section Values

variable {name : String} {header : Header} {headers others : List Header}

theorem valuesOf_cons (name : String) (header : Header) (headers : List Header) :
    valuesOf name (header :: headers) =
      if sameName header.name name = true then header.value :: valuesOf name headers
      else valuesOf name headers := by
  rw [valuesOf, valuesOf, List.filter_cons]
  split <;> rfl

theorem valuesOf_append (name : String) (headers others : List Header) :
    valuesOf name (headers ++ others) = valuesOf name headers ++ valuesOf name others := by
  rw [valuesOf, valuesOf, valuesOf, List.filter_append, List.map_append]

theorem valuesOf_eq_nil (h : ∀ header ∈ headers, sameName header.name name = false) :
    valuesOf name headers = [] := by
  rw [valuesOf, List.map_eq_nil_iff, List.filter_eq_nil_iff]
  exact fun header hmem => Bool.eq_false_iff.mp (h header hmem)

theorem sameName_congr {a b : String} (h : sameName a b = true) (name : String) :
    sameName a name = sameName b name := by
  have hlower : lowerName a = lowerName b := eq_of_beq h
  rw [sameName, sameName, hlower]

theorem sameName_comm (a b : String) : sameName a b = sameName b a :=
  Bool.beq_comm

-- Of two lines of different names, at most one is read for a name.
theorem sameName_eq_false_of_ne {a b : String} (hne : sameName a b = false)
    (h : sameName a name = true) : sameName b name = false := by
  rw [sameName_comm, ← sameName_congr h]
  exact hne

theorem Rearranged.valuesOf_eq (h : Rearranged headers others) (name : String) :
    valuesOf name headers = valuesOf name others := by
  induction h with
  | refl headers => rfl
  | recase hname hvalue rest =>
    rw [valuesOf_cons, valuesOf_cons, sameName_congr hname, hvalue]
  | @swap a b hname rest =>
    simp only [valuesOf_cons]
    by_cases ha : sameName a.name name = true
    · have hb := sameName_eq_false_of_ne hname ha
      simp only [ha, hb, if_true, Bool.false_eq_true, if_false]
    · simp only [if_neg ha]
  | cons header h ih => rw [valuesOf_cons, valuesOf_cons, ih]
  | trans h h' ih ih' => rw [ih, ih']

theorem valuesOf_eq_of_without {other : String} (hname : sameName name other = false)
    (h : without other headers = without other others) :
    valuesOf name headers = valuesOf name others := by
  rw [← valuesOf_without hname, h, valuesOf_without hname]

theorem DifferLater.valueOf_eq (h : DifferLater name headers others) :
    valueOf? name headers = valueOf? name others := by
  obtain ⟨before, line, rest, rest', hline, rfl, rfl, -⟩ := h
  simp only [valueOf?, valuesOf_append, valuesOf_cons, if_pos hline, List.head?_append,
    List.head?_cons]

theorem DifferLater.without_eq (h : DifferLater name headers others) :
    without name headers = without name others := by
  obtain ⟨before, line, rest, rest', hline, rfl, rfl, hrest⟩ := h
  have hcons (rest : List Header) : without name (line :: rest) = without name rest :=
    List.filter_cons_of_neg (by simp [hline])
  have happend (rest : List Header) :
      without name (before ++ rest) = without name before ++ without name rest :=
    List.filter_append _ _
  rw [happend, happend, hcons, hcons, hrest]

end Values

end ChallengeLogin.Http
