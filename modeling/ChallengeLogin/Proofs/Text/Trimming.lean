import Mathlib.Data.List.TakeWhile
import ChallengeLogin.Text.Blank

namespace ChallengeLogin.Text

section Trimming

variable {α : Type} {p : α → Bool} {a : α} {l core front back : List α}

-- A list that neither starts nor ends with an element that satisfies `p`
structure Bare (p : α → Bool) (l : List α) : Prop where
  head : ∀ a, l.head? = some a → p a = false
  last : ∀ a, l.getLast? = some a → p a = false

-- What a list has between the longest runs at its ends that satisfy `p`
structure Trims (p : α → Bool) (l core : List α) : Prop where
  bare : Bare p core
  around : ∃ front back, l = front ++ core ++ back ∧ (∀ a ∈ front, p a = true) ∧
    ∀ a ∈ back, p a = true

theorem trimEnd_sublist (p : α → Bool) (l : List α) : (trimEnd p l).Sublist l := by
  have hreverse := (List.dropWhile_sublist p (l := l.reverse)).reverse
  rwa [List.reverse_reverse] at hreverse

theorem trim_sublist (p : α → Bool) (l : List α) : (trim p l).Sublist l :=
  (trimEnd_sublist p _).trans (List.dropWhile_sublist p)

-- Trimming stops at an element that stays.
theorem trimEnd_append_cons (ha : p a = false) (front back : List α) :
    trimEnd p (front ++ a :: back) = front ++ a :: trimEnd p back := by
  have hkeep : (a :: front.reverse).dropWhile p = a :: front.reverse := by
    rw [List.dropWhile_cons, ha, if_neg Bool.false_ne_true]
  simp only [trimEnd, List.reverse_append, List.reverse_cons, List.append_assoc,
    List.singleton_append, List.dropWhile_append, hkeep]
  split
  · rename_i hnil
    rw [List.isEmpty_iff.mp hnil]
    simp
  · simp

theorem trim_append_cons (ha : p a = false) (front back : List α) :
    trim p (front ++ a :: back) = front.dropWhile p ++ a :: trimEnd p back := by
  have hstart : (front ++ a :: back).dropWhile p = front.dropWhile p ++ a :: back := by
    rw [List.dropWhile_append, List.dropWhile_cons, ha, if_neg Bool.false_ne_true]
    split
    · rename_i hnil
      rw [List.isEmpty_iff.mp hnil, List.nil_append]
    · rfl
  rw [trim, hstart, trimEnd_append_cons ha]

theorem trimEnd_append_of_forall (hback : ∀ a ∈ back, p a = true) :
    trimEnd p (l ++ back) = trimEnd p l := by
  have hreverse : ∀ a ∈ back.reverse, p a = true := fun a ha => hback a (List.mem_reverse.mp ha)
  rw [trimEnd, List.reverse_append, List.dropWhile_append_of_pos hreverse, trimEnd]

theorem exists_run_behind_trimEnd (p : α → Bool) (l : List α) :
    ∃ back, l = trimEnd p l ++ back ∧ ∀ a ∈ back, p a = true := by
  refine ⟨(l.reverse.takeWhile p).reverse, ?_, fun a ha => ?_⟩
  · rw [trimEnd, ← List.reverse_append, List.takeWhile_append_dropWhile, List.reverse_reverse]
  · exact List.mem_takeWhile_imp (List.mem_reverse.mp ha)

theorem bare_trim (p : α → Bool) (l : List α) : Bare p (trim p l) := by
  constructor
  · intro a ha
    -- What is left at the end starts as the list does once the run at its start is gone.
    obtain ⟨back, hback, -⟩ := exists_run_behind_trimEnd p (l.dropWhile p)
    have hstart : (l.dropWhile p).head? = some a := by
      rw [hback, List.head?_append, show (trimEnd p (l.dropWhile p)).head? = some a from ha]
      rfl
    have hnot := List.head?_dropWhile_not p l
    rw [hstart] at hnot
    exact hnot
  · intro a ha
    have hend : ((l.dropWhile p).reverse.dropWhile p).head? = some a := by
      rw [← ha, trim, trimEnd, List.getLast?_reverse]
    have hnot := List.head?_dropWhile_not p (l.dropWhile p).reverse
    rw [hend] at hnot
    exact hnot

theorem trims_trim (p : α → Bool) (l : List α) : Trims p l (trim p l) := by
  refine ⟨bare_trim p l, ?_⟩
  obtain ⟨back, hback, hall⟩ := exists_run_behind_trimEnd p (l.dropWhile p)
  refine ⟨l.takeWhile p, back, ?_, fun a ha => List.mem_takeWhile_imp ha, hall⟩
  rw [List.append_assoc, trim, ← hback, List.takeWhile_append_dropWhile]

theorem Bare.trim_eq (h : Bare p l) : trim p l = l := by
  have hstart : l.dropWhile p = l := by
    cases l with
    | nil => rfl
    | cons a rest => rw [List.dropWhile_cons, h.head a rfl, if_neg Bool.false_ne_true]
  have hend : l.reverse.dropWhile p = l.reverse := by
    cases hlast : l.reverse with
    | nil => rfl
    | cons a rest =>
      have hgetLast : l.getLast? = some a := by rw [← List.head?_reverse, hlast, List.head?_cons]
      rw [List.dropWhile_cons, h.last a hgetLast, if_neg Bool.false_ne_true]
  rw [trim, hstart, trimEnd, hend, List.reverse_reverse]

theorem trim_append_of_forall (hback : ∀ a ∈ back, p a = true) :
    trim p (l ++ back) = trim p l := by
  rw [trim, trim, List.dropWhile_append]
  split
  · rename_i hnil
    rw [List.isEmpty_iff.mp hnil, List.dropWhile_eq_nil_iff.mpr hback]
  · exact trimEnd_append_of_forall hback

theorem trim_around (hfront : ∀ a ∈ front, p a = true) (hback : ∀ a ∈ back, p a = true) :
    trim p (front ++ l ++ back) = trim p l := by
  rw [trim_append_of_forall hback, trim, List.dropWhile_append_of_pos hfront, trim]

theorem trim_eq_iff : trim p l = core ↔ Trims p l core := by
  constructor
  · rintro rfl
    exact trims_trim p l
  · rintro ⟨hbare, front, back, rfl, hfront, hback⟩
    rw [trim_around hfront hback, hbare.trim_eq]

theorem Trims.sublist (h : Trims p l core) : core.Sublist l := by
  rw [← trim_eq_iff.mpr h]
  exact trim_sublist p l

theorem trim_eq_self_iff : trim p l = l ↔ Bare p l :=
  ⟨fun h => h ▸ bare_trim p l, Bare.trim_eq⟩

-- Runs that are gone from one end already make no difference.
theorem trim_dropWhile (p : α → Bool) (l : List α) : trim p (l.dropWhile p) = trim p l := by
  have hrun : ∀ a ∈ l.takeWhile p, p a = true := fun a ha => List.mem_takeWhile_imp ha
  calc trim p (l.dropWhile p)
      = trimEnd p ((l.takeWhile p ++ l.dropWhile p).dropWhile p) := by
        rw [List.dropWhile_append_of_pos hrun, trim]
    _ = trim p l := by rw [List.takeWhile_append_dropWhile, trim]

theorem trim_trimEnd (p : α → Bool) (l : List α) : trim p (trimEnd p l) = trim p l := by
  obtain ⟨back, hback, hall⟩ := exists_run_behind_trimEnd p l
  calc trim p (trimEnd p l) = trim p (trimEnd p l ++ back) := (trim_append_of_forall hall).symm
    _ = trim p l := by rw [← hback]

end Trimming

section Cutting

variable {α : Type} {p : α → Bool} {l rest front : List α}

theorem cutAt_sublist (p : α → Bool) (l : List α) : (cutAt p l).1.Sublist l := by
  unfold cutAt
  split
  · exact .refl l
  · exact List.takeWhile_sublist _

theorem sublist_of_cutAt (h : (cutAt p l).2 = some rest) : rest.Sublist l := by
  unfold cutAt at h
  split at h
  · cases h
  · rename_i first after hdrop
    cases h
    have hsuffix : (first :: rest).Sublist l := hdrop ▸ List.dropWhile_sublist _
    exact (List.sublist_cons_self first rest).trans hsuffix

variable [BEq α] [LawfulBEq α] {c : α}

-- What a list has in front of the first `c`, which is all of it where there is none
def Leads (c : α) (front l : List α) : Prop :=
  c ∉ front ∧ (l = front ∨ ∃ rest, l = front ++ c :: rest)

theorem exists_leads (c : α) (l : List α) : ∃ front, Leads c front l := by
  by_cases hmem : c ∈ l
  · obtain ⟨front, rest, rfl, hfront⟩ := List.eq_append_cons_of_mem hmem
    exact ⟨front, hfront, .inr ⟨rest, rfl⟩⟩
  · exact ⟨l, hmem, .inl rfl⟩

theorem cutAt_append_cons (h : c ∉ front) (rest : List α) :
    cutAt (· == c) (front ++ c :: rest) = (front, some rest) := by
  have hother : ∀ a ∈ front, (!(a == c)) = true := fun a ha => by
    rw [Bool.not_eq_true', beq_eq_false_iff_ne]
    exact fun hac => h (hac ▸ ha)
  have hdrop : (front ++ c :: rest).dropWhile (fun a => !(a == c)) = c :: rest := by
    rw [List.dropWhile_append_of_pos hother, List.dropWhile_cons, beq_self_eq_true]
    rfl
  have htake : (front ++ c :: rest).takeWhile (fun a => !(a == c)) = front := by
    rw [List.takeWhile_append_of_pos hother, List.takeWhile_cons, beq_self_eq_true]
    exact List.append_nil front
  simp only [cutAt, hdrop, htake]

theorem cutAt_of_not_mem (h : c ∉ l) : cutAt (· == c) l = (l, none) := by
  have hdrop : l.dropWhile (fun a => !(a == c)) = [] := by
    refine List.dropWhile_eq_nil_iff.mpr fun a ha => ?_
    rw [Bool.not_eq_true', beq_eq_false_iff_ne]
    exact fun hac => h (hac ▸ ha)
  simp only [cutAt, hdrop]

theorem Leads.cutAt_eq (h : Leads c front l) : (cutAt (· == c) l).1 = front := by
  obtain ⟨hfront, rfl | ⟨rest, rfl⟩⟩ := h
  · rw [cutAt_of_not_mem hfront]
  · rw [cutAt_append_cons hfront]

theorem Leads.sublist (h : Leads c front l) : front.Sublist l := by
  rw [← h.cutAt_eq]
  exact cutAt_sublist _ l

end Cutting

end ChallengeLogin.Text
