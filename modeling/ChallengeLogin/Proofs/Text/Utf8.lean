import ChallengeLogin.Text.Utf8

namespace ChallengeLogin.Text.Utf8

section Lead

variable {n : Nat}

theorem lead_one (h : n < 0x80) : lead (UInt8.ofNat n) = .whole (Char.ofNat n) := by
  have hb : (UInt8.ofNat n).toNat = n := by
    rw [UInt8.toNat_ofNat']
    omega
  simp only [lead, hb, if_pos h]

theorem lead_two (h₁ : 0x80 ≤ n) (h₂ : n < 0x800) :
    lead (UInt8.ofNat (0xC0 + n / 64)) = .pending ⟨1, 0x80, 0xBF, n / 64⟩ := by
  have hb : (UInt8.ofNat (0xC0 + n / 64)).toNat = 0xC0 + n / 64 := by
    rw [UInt8.toNat_ofNat']
    omega
  have h80 : ¬0xC0 + n / 64 < 0x80 := by omega
  have hC2 : ¬0xC0 + n / 64 < 0xC2 := by omega
  have hE0 : 0xC0 + n / 64 < 0xE0 := by omega
  simp only [lead, hb, if_neg h80, if_neg hC2, if_pos hE0, Nat.add_sub_cancel_left]

-- The bounds on the second byte depend on the lead byte; those of a written character meet them.
theorem lead_three (h₁ : 0x800 ≤ n) (h₂ : n < 0x10000) (hs : n < 0xD800 ∨ 0xDFFF < n) :
    ∃ low high, lead (UInt8.ofNat (0xE0 + n / 4096)) = .pending ⟨2, low, high, n / 4096⟩ ∧
      low ≤ 0x80 + n / 64 % 64 ∧ 0x80 + n / 64 % 64 ≤ high := by
  have hb : (UInt8.ofNat (0xE0 + n / 4096)).toNat = 0xE0 + n / 4096 := by
    rw [UInt8.toNat_ofNat']
    omega
  have h80 : ¬0xE0 + n / 4096 < 0x80 := by omega
  have hC2 : ¬0xE0 + n / 4096 < 0xC2 := by omega
  have hE0 : ¬0xE0 + n / 4096 < 0xE0 := by omega
  have hF0 : 0xE0 + n / 4096 < 0xF0 := by omega
  simp only [lead, hb, if_neg h80, if_neg hC2, if_neg hE0, if_pos hF0, Nat.add_sub_cancel_left]
  by_cases hlow : 0xE0 + n / 4096 = 0xE0
  · rw [if_pos hlow]
    exact ⟨0xA0, 0xBF, by rw [show n / 4096 = 0 by omega], by omega, by omega⟩
  rw [if_neg hlow]
  by_cases hhigh : 0xE0 + n / 4096 = 0xED
  · rw [if_pos hhigh]
    exact ⟨0x80, 0x9F, by rw [show n / 4096 = 0xD by omega], by omega, by omega⟩
  · rw [if_neg hhigh]
    exact ⟨0x80, 0xBF, rfl, by omega, by omega⟩

theorem lead_four (h₁ : 0x10000 ≤ n) (h₂ : n < 0x110000) :
    ∃ low high, lead (UInt8.ofNat (0xF0 + n / 262144)) = .pending ⟨3, low, high, n / 262144⟩ ∧
      low ≤ 0x80 + n / 4096 % 64 ∧ 0x80 + n / 4096 % 64 ≤ high := by
  have hb : (UInt8.ofNat (0xF0 + n / 262144)).toNat = 0xF0 + n / 262144 := by
    rw [UInt8.toNat_ofNat']
    omega
  have h80 : ¬0xF0 + n / 262144 < 0x80 := by omega
  have hC2 : ¬0xF0 + n / 262144 < 0xC2 := by omega
  have hE0 : ¬0xF0 + n / 262144 < 0xE0 := by omega
  have hE0' : ¬0xF0 + n / 262144 = 0xE0 := by omega
  have hED : ¬0xF0 + n / 262144 = 0xED := by omega
  have hF0 : ¬0xF0 + n / 262144 < 0xF0 := by omega
  simp only [lead, hb, if_neg h80, if_neg hC2, if_neg hE0, if_neg hE0', if_neg hED, if_neg hF0,
    Nat.add_sub_cancel_left]
  by_cases hlow : 0xF0 + n / 262144 = 0xF0
  · rw [if_pos hlow]
    exact ⟨0x90, 0xBF, by rw [show n / 262144 = 0 by omega], by omega, by omega⟩
  rw [if_neg hlow]
  by_cases hmid : 0xF0 + n / 262144 < 0xF4
  · rw [if_pos hmid]
    exact ⟨0x80, 0xBF, rfl, by omega, by omega⟩
  · rw [if_neg hmid, if_pos (show 0xF0 + n / 262144 = 0xF4 by omega)]
    exact ⟨0x80, 0x8F, by rw [show n / 262144 = 4 by omega], by omega, by omega⟩

end Lead

section Run

theorem toNat_continuation (m : Nat) : (UInt8.ofNat (0x80 + m % 64)).toNat = 0x80 + m % 64 := by
  rw [UInt8.toNat_ofNat']
  omega

theorem run_whole {b : UInt8} {c : Char} (h : lead b = .whole c) (rest : Bytes) :
    run none (b :: rest) = some c :: run none rest := by
  simp only [run, h]

theorem run_pending {b : UInt8} {p : Pending} (h : lead b = .pending p) (rest : Bytes) :
    run none (b :: rest) = run (some p) rest := by
  simp only [run, h]

-- A continuation byte within the bounds that is not the last one
theorem run_continue {more low high value m : Nat} (hmore : more ≠ 1)
    (hlow : low ≤ 0x80 + m % 64) (hhigh : 0x80 + m % 64 ≤ high) (rest : Bytes) :
    run (some ⟨more, low, high, value⟩) (UInt8.ofNat (0x80 + m % 64) :: rest) =
      run (some ⟨more - 1, 0x80, 0xBF, value * 64 + m % 64⟩) rest := by
  have hvalue : (0x80 + m % 64) % 64 = m % 64 := by omega
  simp only [run, toNat_continuation, hvalue, if_pos (And.intro hlow hhigh), if_neg hmore]

theorem run_last {low high value m : Nat}
    (hlow : low ≤ 0x80 + m % 64) (hhigh : 0x80 + m % 64 ≤ high) (rest : Bytes) :
    run (some ⟨1, low, high, value⟩) (UInt8.ofNat (0x80 + m % 64) :: rest) =
      some (Char.ofNat (value * 64 + m % 64)) :: run none rest := by
  have hvalue : (0x80 + m % 64) % 64 = m % 64 := by omega
  simp only [run, toNat_continuation, hvalue, if_pos (And.intro hlow hhigh), ite_true]

end Run

theorem toNat_scalar (c : Char) :
    (c.toNat < 0xD800 ∨ 0xDFFF < c.toNat) ∧ c.toNat < 0x110000 := by
  have h : c.toNat < 0xD800 ∨ 0xDFFF < c.toNat ∧ c.toNat < 0x110000 := c.valid
  omega

theorem run_encodeChar (c : Char) (rest : Bytes) :
    run none (encodeChar c ++ rest) = some c :: run none rest := by
  obtain ⟨hs, htop⟩ := toNat_scalar c
  unfold encodeChar
  by_cases h₁ : c.toNat < 0x80
  · simp only [if_pos h₁, List.cons_append, List.nil_append]
    rw [run_whole (lead_one h₁), Char.ofNat_toNat]
  by_cases h₂ : c.toNat < 0x800
  · simp only [if_neg h₁, if_pos h₂, List.cons_append, List.nil_append]
    rw [run_pending (lead_two (by omega) h₂), run_last (by omega) (by omega),
      show c.toNat / 64 * 64 + c.toNat % 64 = c.toNat by omega, Char.ofNat_toNat]
  by_cases h₃ : c.toNat < 0x10000
  · obtain ⟨low, high, hlead, hlow, hhigh⟩ := lead_three (by omega) h₃ hs
    simp only [if_neg h₁, if_neg h₂, if_pos h₃, List.cons_append, List.nil_append]
    rw [run_pending hlead, run_continue (by omega) hlow hhigh, run_last (by omega) (by omega),
      show (c.toNat / 4096 * 64 + c.toNat / 64 % 64) * 64 + c.toNat % 64 = c.toNat by omega,
      Char.ofNat_toNat]
  · obtain ⟨low, high, hlead, hlow, hhigh⟩ := lead_four (by omega) htop
    simp only [if_neg h₁, if_neg h₂, if_neg h₃, List.cons_append, List.nil_append]
    rw [run_pending hlead, run_continue (by omega) hlow hhigh,
      run_continue (by omega) (by omega) (by omega), run_last (by omega) (by omega),
      show ((c.toNat / 262144 * 64 + c.toNat / 4096 % 64) * 64 + c.toNat / 64 % 64) * 64 +
        c.toNat % 64 = c.toNat by omega, Char.ofNat_toNat]

-- What was written comes back whole, with no gap.
theorem symbols_encode (cs : List Char) : symbols (encode cs) = cs.map some := by
  unfold symbols
  induction cs with
  | nil => rfl
  | cons c cs ih => rw [encode_cons, run_encodeChar, ih, List.map_cons]

theorem encode_injective {a b : List Char} (h : encode a = encode b) : a = b := by
  have hs : a.map some = b.map some := by rw [← symbols_encode, ← symbols_encode, h]
  exact (List.map_inj_right fun _ _ => Option.some.inj).mp hs

theorem encodeChar_ascii {c : Char} (h : c.toNat < 0x80) :
    encodeChar c = [UInt8.ofNat c.toNat] := by
  unfold encodeChar
  simp only [if_pos h]

theorem encode_ascii {cs : List Char} (h : ∀ c ∈ cs, c.toNat < 0x80) :
    encode cs = cs.map fun c => UInt8.ofNat c.toNat := by
  induction cs with
  | nil => rfl
  | cons c cs ih =>
    obtain ⟨hc, hcs⟩ := List.forall_mem_cons.mp h
    rw [encode_cons, encodeChar_ascii hc, ih hcs, List.map_cons, List.singleton_append]

-- No byte of a character beyond ASCII is one in ASCII.
theorem le_of_mem_encodeChar {c : Char} (h : 0x80 ≤ c.toNat) {b : UInt8} (hb : b ∈ encodeChar c) :
    0x80 ≤ b.toNat := by
  obtain ⟨-, htop⟩ := toNat_scalar c
  have hlow : ¬c.toNat < 0x80 := by omega
  have hlead (n k : Nat) (hn : 0x80 ≤ n) (hk : n + k < 0x100) :
      0x80 ≤ (UInt8.ofNat (n + k)).toNat := by
    rw [UInt8.toNat_ofNat']
    omega
  have hnext (m : Nat) : 0x80 ≤ (UInt8.ofNat (0x80 + m % 64)).toNat := by
    rw [toNat_continuation]
    omega
  unfold encodeChar at hb
  by_cases h₂ : c.toNat < 0x800
  · simp only [if_neg hlow, if_pos h₂, List.mem_cons, List.not_mem_nil, or_false] at hb
    rcases hb with rfl | rfl
    · exact hlead _ _ (by omega) (by omega)
    · exact hnext _
  by_cases h₃ : c.toNat < 0x10000
  · simp only [if_neg hlow, if_neg h₂, if_pos h₃, List.mem_cons, List.not_mem_nil, or_false] at hb
    rcases hb with rfl | rfl | rfl
    · exact hlead _ _ (by omega) (by omega)
    · exact hnext _
    · exact hnext _
  · simp only [if_neg hlow, if_neg h₂, if_neg h₃, List.mem_cons, List.not_mem_nil, or_false] at hb
    rcases hb with rfl | rfl | rfl | rfl
    · exact hlead _ _ (by omega) (by omega)
    · exact hnext _
    · exact hnext _
    · exact hnext _

theorem exists_mem_encodeChar (c : Char) : ∃ b, b ∈ encodeChar c := by
  refine List.exists_mem_of_ne_nil _ fun hnil => ?_
  have hrun := run_encodeChar c []
  rw [hnil] at hrun
  cases hrun

end ChallengeLogin.Text.Utf8
