import Mathlib.Data.List.Find
import ChallengeLogin.Proofs.Json.Filling

namespace ChallengeLogin.Json

variable {σ C : Type}

section Occurrences

variable {name other : String} {v : Value} {ms : List (String × Value)}

theorem occurrences_cons_self (name : String) (v : Value) (ms : List (String × Value)) :
    occurrences name ((name, v) :: ms) = v :: occurrences name ms := by
  rw [occurrences, List.filter_cons_of_pos (by simp), List.map_cons, occurrences]

theorem occurrences_cons_of_ne (h : other ≠ name) :
    occurrences name ((other, v) :: ms) = occurrences name ms := by
  rw [occurrences, List.filter_cons_of_neg (by simpa using h), occurrences]

theorem name_of_find {slots : List (Slot σ)} {slot : Slot σ}
    (h : slots.find? (fun slot => slot.name = name) = some slot) : slot.name = name := by
  have hnamed := List.find?_some h
  exact of_decide_eq_true hnamed

end Occurrences

-- A slot that keeps its value in a place of its own: it is found under its name, fills the place
-- with what is read from a value, and no other slot touches it.
structure Keeps (slots : List (Slot σ)) (slot : Slot σ) (get : σ → Option C)
    (read : Value → Option C) : Prop where
  found : slots.find? (fun other => other.name = slot.name) = some slot
  present : ∀ record, slot.present record = (get record).isSome
  own : ∀ v record, (slot.take v).map (fun f => get (f record)) = (read v).map some
  others : ∀ other ∈ slots, other.name ≠ slot.name → ∀ v f, other.take v = some f →
    ∀ record, get (f record) = get record

-- What a place holds once the occurrences of its name have been filled in, and what it held before.
-- An occurrence is only filled into a place that is free.
inductive Settled (read : Value → Option C) (old : Option C) : List Value → Option C → Prop
  | kept : Settled read old [] old
  | filled {v : Value} {c : C} (hold : old = none) (hread : read v = some c) :
      Settled read old [v] (some c)

section Filled

variable {slots : List (Slot σ)} {slot : Slot σ} {get : σ → Option C} {read : Value → Option C}
  {record next : σ} {name : String} {v : Value} {ms : List (String × Value)}

theorem Keeps.fillOne_own (h : Keeps slots slot get read)
    (hfill : fillOne slots record (slot.name, v) = some next) :
    get record = none ∧ ∃ c, read v = some c ∧ get next = some c := by
  simp only [fillOne, h.found] at hfill
  split at hfill
  · cases hfill
  · rename_i habsent
    obtain ⟨f, htake, rfl⟩ := Option.map_eq_some_iff.mp hfill
    rw [h.present, Bool.not_eq_true, Option.isSome_eq_false_iff, Option.isNone_iff_eq_none]
      at habsent
    have hown := h.own v record
    rw [htake, Option.map_some] at hown
    obtain ⟨c, hread, hget⟩ := Option.map_eq_some_iff.mp hown.symm
    exact ⟨habsent, c, hread, hget.symm⟩

theorem Keeps.fillOne_other (h : Keeps slots slot get read) (hname : name ≠ slot.name)
    (hfill : fillOne slots record (name, v) = some next) : get next = get record := by
  unfold fillOne at hfill
  split at hfill
  · cases hfill
    rfl
  · rename_i other hother
    have hfound : other.name = name := name_of_find hother
    split at hfill
    · cases hfill
    · obtain ⟨f, htake, rfl⟩ := Option.map_eq_some_iff.mp hfill
      refine h.others other (List.mem_of_find?_eq_some hother) ?_ v f htake record
      rwa [hfound]

-- By induction on the members: once the place is filled, no further occurrence is let through.
theorem Keeps.settled (h : Keeps slots slot get read) (hfill : fill slots record ms = some next) :
    Settled read (get record) (occurrences slot.name ms) (get next) := by
  induction ms generalizing record with
  | nil =>
    cases hfill
    exact .kept
  | cons entry ms ih =>
    obtain ⟨name, v⟩ := entry
    obtain ⟨middle, hone, hrest⟩ := Option.bind_eq_some_iff.mp hfill
    have hsettled := ih hrest
    by_cases hname : name = slot.name
    · subst hname
      obtain ⟨hnone, c, hread, hget⟩ := h.fillOne_own hone
      rw [hget] at hsettled
      rw [occurrences_cons_self]
      generalize occurrences slot.name ms = vs at hsettled
      generalize get next = new at hsettled
      cases hsettled with
      | kept => exact .filled hnone hread
      | filled hold => cases hold
    · rw [h.fillOne_other hname hone] at hsettled
      rwa [occurrences_cons_of_ne hname]

end Filled

section Open

variable {slots : List (Slot σ)} {record : σ} {ms : List (String × Value)}

-- Members that a slot has nothing against: its name does not occur, or once, with a value that is
-- taken, while the place is free
def Open (record : σ) (ms : List (String × Value)) (slot : Slot σ) : Prop :=
  occurrences slot.name ms = [] ∨
    ∃ v f, occurrences slot.name ms = [v] ∧ slot.present record = false ∧ slot.take v = some f

theorem fillOne_of_open {slot : Slot σ} {v : Value} {vs : List Value}
    (hfind : slots.find? (fun other => other.name = slot.name) = some slot)
    (hoccurs : occurrences slot.name ms = v :: vs) (hopen : Open record ms slot) :
    ∃ f, fillOne slots record (slot.name, v) = some (f record) ∧ slot.take v = some f ∧
      vs = [] := by
  rcases hopen with hnone | ⟨w, f, hone, habsent, htake⟩
  · cases hnone.symm.trans hoccurs
  · cases hone.symm.trans hoccurs
    refine ⟨f, ?_, htake, rfl⟩
    simp only [fillOne, hfind, habsent, htake, Bool.false_eq_true, if_false, Option.map_some]

-- A member that is not known makes no difference to any slot.
theorem Open.of_unknown {slot : Slot σ} {name : String} {v : Value}
    (hfind : slots.find? (fun slot => slot.name = name) = none) (hmem : slot ∈ slots)
    (h : Open record ((name, v) :: ms) slot) : Open record ms slot := by
  have hname : name ≠ slot.name := by
    rintro rfl
    exact absurd (decide_eq_true rfl) (List.find?_eq_none.mp hfind slot hmem)
  rwa [Open, occurrences_cons_of_ne hname] at h

-- Nor does one that has been filled in, since it is in no other place and does not occur again.
theorem Open.of_filled {C : Type} {slot other : Slot σ} {get : σ → Option C}
    {read : Value → Option C} {v : Value} {f : σ → σ} (hkeeps : Keeps slots other get read)
    (hmem : slot ∈ slots) (htake : slot.take v = some f) (hlast : occurrences slot.name ms = [])
    (h : Open record ((slot.name, v) :: ms) other) : Open (f record) ms other := by
  by_cases hsame : other.name = slot.name
  · rw [Open, hsame]
    exact .inl hlast
  · have hpresent : other.present (f record) = other.present record := by
      rw [hkeeps.present, hkeeps.present,
        hkeeps.others slot hmem (Ne.symm hsame) v f htake record]
    rw [Open, occurrences_cons_of_ne (Ne.symm hsame)] at h
    rwa [Open, hpresent]

-- By induction on the members: the slots stay open for those that are still to come.
theorem exists_fill_of_open
    (hkeeps : ∀ slot ∈ slots, ∃ (C : Type) (get : σ → Option C) (read : Value → Option C),
      Keeps slots slot get read)
    (hopen : ∀ slot ∈ slots, Open record ms slot) : ∃ next, fill slots record ms = some next := by
  induction ms generalizing record with
  | nil => exact ⟨record, rfl⟩
  | cons entry ms ih =>
    obtain ⟨name, v⟩ := entry
    cases hfind : slots.find? (fun slot => slot.name = name) with
    | none =>
      have hone : fillOne slots record (name, v) = some record := by simp only [fillOne, hfind]
      rw [fill, hone, Option.bind_some]
      exact ih fun slot hmem => (hopen slot hmem).of_unknown hfind hmem
    | some slot =>
      have hmem := List.mem_of_find?_eq_some hfind
      obtain rfl := name_of_find hfind
      obtain ⟨f, hone, htake, hlast⟩ :=
        fillOne_of_open hfind (occurrences_cons_self slot.name v ms) (hopen slot hmem)
      rw [fill, hone, Option.bind_some]
      refine ih fun other hother => ?_
      obtain ⟨C, get, read, hplace⟩ := hkeeps other hother
      exact (hopen other hother).of_filled hplace hmem htake hlast

end Open

section Places

variable {A : Type} {slots : List (Slot σ)} {get : σ → Option C} {record : σ}
  {ms : List (String × Value)}

-- The slot that fills a place with what a reader reads
def Slot.place (name : String) (required : Bool) (get : σ → Option C) (set : A → σ → σ)
    {reader : Reader A} {read : Value → Option A} (h : reader.Takes read) : Slot σ where
  name := name
  required := required
  present record := (get record).isSome
  value := reader.map set
  take v := (read v).map set
  takes := h.map set

theorem own_place {name : String} {required : Bool} {set : A → σ → σ} {reader : Reader A}
    {read : Value → Option A} (h : reader.Takes read) {hold : A → C}
    (hset : ∀ a record, get (set a record) = some (hold a)) (v : Value) (record : σ) :
    ((Slot.place name required get set h).take v).map (fun f => get (f record)) =
      (read v).map fun a => some (hold a) := by
  rw [Slot.place, Option.map_map]
  exact Option.map_congr fun a _ => hset a record

-- The first required name that does not occur is the one that the filled record lacks.
theorem firstMissing_eq (slots : List (Slot σ))
    (h : ∀ slot ∈ slots, slot.present record = !(occurrences slot.name ms).isEmpty) :
    firstMissing (slots.map (·.toMember)) record =
      ((slots.filter (·.required)).map (·.name)).find?
        fun name => (occurrences name ms).isEmpty := by
  rw [firstMissing, List.find?_map, List.find?_map, List.find?_filter, Option.map_map]
  refine congrArg _ (List.find?_congr fun slot hmem => ?_)
  simp only [Function.comp_apply, h slot hmem, Bool.not_not, Bool.decide_and, Bool.decide_eq_true]

end Places

-- The occurrences of a name that stands once, with a value of the right type, or not at all
def AtMostOnce (typed : Value → Prop) (vs : List Value) : Prop :=
  vs = [] ∨ ∃ v, vs = [v] ∧ typed v

section Once

variable {read : Value → Option C} {typed : Value → Prop} {vs : List Value} {new : Option C}

theorem Settled.isSome_eq (h : Settled read none vs new) : new.isSome = !vs.isEmpty := by
  cases h <;> rfl

-- A place that is not left empty holds what the only occurrence of its name reads as.
theorem Settled.only (h : Settled read none vs new) (hne : vs ≠ []) :
    ∃ v c, vs = [v] ∧ read v = some c ∧ new = some c := by
  cases h with
  | kept => exact absurd rfl hne
  | filled _ hread => exact ⟨_, _, rfl, hread, rfl⟩

theorem AtMostOnce.isOpen {slots : List (Slot σ)} {slot : Slot σ} {get : σ → Option C} {record : σ}
    {ms : List (String × Value)} (h : AtMostOnce typed (occurrences slot.name ms))
    (hkeeps : Keeps slots slot get read) (hget : get record = none)
    (htyped : ∀ v, typed v → ∃ c, read v = some c) : Open record ms slot := by
  rcases h with hnone | ⟨v, hone, hv⟩
  · exact .inl hnone
  · obtain ⟨c, hread⟩ := htyped v hv
    have hown := hkeeps.own v record
    rw [hread, Option.map_some] at hown
    obtain ⟨f, htake, -⟩ := Option.map_eq_some_iff.mp hown
    have habsent : slot.present record = false := by
      rw [hkeeps.present, hget]
      rfl
    exact .inr ⟨v, f, hone, habsent, htake⟩

end Once

end ChallengeLogin.Json
