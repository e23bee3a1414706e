import Mathlib.Data.List.Prime
import Mathlib.NumberTheory.LucasPrimality
import Mathlib.Tactic.NormNum.Prime
import ChallengeLogin.Curve.Secp256k1

namespace ChallengeLogin.Curve

-- a ^ e mod m, squaring once for each binary digit of the exponent
def powMod (m a e : ℕ) : ℕ :=
  if h : e = 0 then 1 % m
  else
    let half := powMod m (a * a % m) (e / 2)
    if e % 2 = 1 then a * half % m else half
termination_by e
decreasing_by omega

theorem powMod_eq (m a e : ℕ) : powMod m a e = a ^ e % m := by
  induction e using Nat.strongRecOn generalizing a with
  | _ e ih =>
    rw [powMod]
    by_cases he : e = 0
    · rw [dif_pos he, he, pow_zero]
    have hhalf : powMod m (a * a % m) (e / 2) = a ^ (2 * (e / 2)) % m := by
      rw [ih (e / 2) (by omega), ← Nat.pow_mod, pow_mul, sq]
    rw [dif_neg he]
    simp only [hhalf]
    by_cases hodd : e % 2 = 1
    · rw [if_pos hodd, Nat.mul_mod_mod, ← pow_succ']
      congr 2
      omega
    · rw [if_neg hodd]
      congr 2
      omega

-- A number, a base whose powers run through all residues, and the factors of the number less one
structure LucasEntry where
  number : ℕ
  base : ℕ
  factors : List ℕ

-- Lucas's test, where the factors are known to be prime.
def LucasEntry.passes (known : List ℕ) (entry : LucasEntry) : Bool :=
  1 < entry.number && entry.factors.prod == entry.number - 1 &&
    powMod entry.number entry.base (entry.number - 1) == 1 &&
    entry.factors.all fun q =>
      known.contains q && powMod entry.number entry.base ((entry.number - 1) / q) != 1

-- Tests entries in order, each with the numbers before it known.
def allPass (known : List ℕ) : List LucasEntry → Bool
  | [] => true
  | entry :: rest => entry.passes known && allPass (entry.number :: known) rest

section Lucas

variable {known : List ℕ}

theorem cast_pow_eq_one_iff {p : ℕ} (hp : 1 < p) (a e : ℕ) :
    (a : ZMod p) ^ e = 1 ↔ powMod p a e = 1 := by
  have hone : (1 : ZMod p) = ((1 : ℕ) : ZMod p) := Nat.cast_one.symm
  rw [← Nat.cast_pow, hone, ZMod.natCast_eq_natCast_iff', Nat.mod_eq_of_lt hp, powMod_eq]

theorem LucasEntry.prime_of_passes {entry : LucasEntry} (hknown : ∀ q ∈ known, q.Prime)
    (h : entry.passes known = true) : entry.number.Prime := by
  obtain ⟨p, a, factors⟩ := entry
  simp only [passes, Bool.and_eq_true, decide_eq_true_eq, beq_iff_eq, bne_iff_ne, ne_eq,
    List.all_eq_true, List.contains_iff_mem] at h
  obtain ⟨⟨⟨hp, hprod⟩, hone⟩, hfactors⟩ := h
  have hprime : ∀ q ∈ factors, q.Prime := fun q hq => hknown q (hfactors q hq).1
  apply lucas_primality p (a : ZMod p)
  · exact (cast_pow_eq_one_iff hp a _).mpr hone
  · intro q hq hdvd
    rw [← hprod] at hdvd
    obtain ⟨r, hr, hqr⟩ := (Prime.dvd_prod_iff hq.prime).mp hdvd
    obtain rfl := (Nat.prime_dvd_prime_iff_eq hq (hprime r hr)).mp hqr
    exact fun heq => (hfactors q hr).2 ((cast_pow_eq_one_iff hp a _).mp heq)

theorem prime_of_allPass {entries : List LucasEntry} (hknown : ∀ q ∈ known, q.Prime)
    (h : allPass known entries = true) : ∀ entry ∈ entries, entry.number.Prime := by
  induction entries generalizing known with
  | nil => exact fun _ hmem => absurd hmem List.not_mem_nil
  | cons first rest ih =>
    simp only [allPass, Bool.and_eq_true] at h
    have hfirst := LucasEntry.prime_of_passes hknown h.1
    intro entry hmem
    rcases List.mem_cons.mp hmem with rfl | hmem
    · exact hfirst
    · exact ih (List.forall_mem_cons.mpr ⟨hfirst, hknown⟩) h.2 entry hmem

end Lucas

section Orders

def smallPrimes : List ℕ :=
  [ 2, 3, 5, 7, 11, 17, 29, 31, 41, 53, 59, 97, 109, 149, 293, 461, 631, 797, 971, 1373, 1627, 1871,
    2011, 2621, 2657, 4051, 4423, 5323, 7723, 9349, 13441, 16699, 20113, 24809, 28181, 41201, 85831,
    96557, 120233, 305873 ]

theorem prime_of_mem_smallPrimes : ∀ q ∈ smallPrimes, q.Prime := by
  simp only [smallPrimes, List.forall_mem_cons]
  norm_num

-- From the factors of the field order less one up to the field order
def fieldEntries : List LucasEntry :=
  [ ⟨13331831, 13, [2, 5, 971, 1373]⟩,
    ⟨173378833005251801, 6, [2, 2, 2, 5, 5, 2621, 24809, 13331831]⟩,
    ⟨22149492674086928081353, 5, [2, 2, 2, 3, 5323, 173378833005251801]⟩,
    ⟨132896956044521568488119, 6, [2, 3, 22149492674086928081353]⟩,
    ⟨1206781, 10, [2, 2, 3, 5, 20113]⟩,
    ⟨7240687, 3, [2, 3, 1206781]⟩,
    ⟨107590001, 3, [2, 2, 2, 2, 5, 5, 5, 5, 7, 29, 53]⟩,
    ⟨255515944373312847190720520512484175977, 3,
      [2, 2, 2, 7, 7, 11, 1627, 2657, 4423, 41201, 96557, 7240687, 107590001]⟩,
    ⟨205115282021455665897114700593932402728804164701536103180137503955397371, 10,
      [2, 3, 5, 29, 29, 31, 7723, 132896956044521568488119,
        255515944373312847190720520512484175977]⟩,
    ⟨fieldOrder, 3,
      [2, 3, 7, 13441, 205115282021455665897114700593932402728804164701536103180137503955397371]⟩ ]

-- From the factors of the group order less one up to the group order
def groupEntries : List LucasEntry :=
  [ ⟨4681609, 23, [2, 2, 2, 3, 97, 2011]⟩,
    ⟨107361793816595537, 3, [2, 2, 2, 2, 16699, 85831, 4681609]⟩,
    ⟨44706919, 6, [2, 3, 797, 9349]⟩,
    ⟨174723607534414371449, 3, [2, 2, 2, 17, 59, 4051, 120233, 44706919]⟩,
    ⟨545358713, 5, [2, 2, 2, 41, 59, 28181]⟩,
    ⟨1627771, 3, [2, 3, 5, 29, 1871]⟩,
    ⟨297159362677, 2, [2, 2, 3, 3, 11, 461, 1627771]⟩,
    ⟨29047611873442575647497758179, 2, [2, 293, 305873, 545358713, 297159362677]⟩,
    ⟨341948486974166000522343609283189, 2, [2, 2, 3, 3, 3, 109, 29047611873442575647497758179]⟩,
    ⟨groupOrder, 7,
      [2, 2, 2, 2, 2, 2, 3, 149, 631, 107361793816595537, 174723607534414371449,
        341948486974166000522343609283189]⟩ ]

theorem prime_fieldOrder : fieldOrder.Prime := by
  have hpass : allPass smallPrimes fieldEntries = true := by decide +kernel
  exact prime_of_allPass prime_of_mem_smallPrimes hpass _ (List.mem_of_getLast? rfl)

theorem prime_groupOrder : groupOrder.Prime := by
  have hpass : allPass smallPrimes groupEntries = true := by decide +kernel
  exact prime_of_allPass prime_of_mem_smallPrimes hpass _ (List.mem_of_getLast? rfl)

end Orders

end ChallengeLogin.Curve
