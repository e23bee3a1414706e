import ChallengeLogin.Key
import ChallengeLogin.Proofs.Text.Numeral
import ChallengeLogin.Proofs.Text.Trimming

namespace ChallengeLogin.Key

open ChallengeLogin.Text ChallengeLogin.Curve

-- The digits of a secret number
structure IsSecret (core : List Char) (n : Nat) : Prop where
  length : core.length = 64
  numeral : Hex.Numeral core n
  positive : 1 ≤ n
  below : n < groupOrder

section Reading

variable {text : String} {core : List Char} {n : Nat} {key : Key} {bs : Bytes}

theorem decode_of_trims (hcore : Trims isBlank text.toList core) :
    Hex.decode (trimBlank text) = Hex.decode (String.ofList core) := by
  rw [trimBlank, trim_eq_iff.mpr hcore]

-- The bytes of a secret number are thirty-two, as it has sixty-four digits.
theorem isSecret_iff_of_spells (h : Hex.Spells (String.ofList core) bs) :
    IsSecret core n ↔ n = natOfBytes bs ∧ bs.length = 32 ∧ 0 < n ∧ n < groupOrder := by
  obtain ⟨hnumeral, hlength⟩ := h.numeral
  rw [String.toList_ofList] at hnumeral hlength
  constructor
  · rintro ⟨hdigits, hn, hpositive, hbelow⟩
    exact ⟨hn.unique hnumeral, by omega, hpositive, hbelow⟩
  · rintro ⟨rfl, hbytes, hpositive, hbelow⟩
    exact ⟨by omega, hnumeral, hpositive, hbelow⟩

theorem ofText_of_spells (hcore : Trims isBlank text.toList core)
    (h : Hex.Spells (String.ofList core) bs) :
    ofText text =
      (secretOfBytes? bs).elim (.error .notAKey) fun n => .ok ⟨Schnorr.keyPair n⟩ := by
  simp only [ofText, decode_of_trims hcore, Hex.decode_eq_ok_iff.mpr h]
  cases secretOfBytes? bs <;> rfl

theorem ofText_of_secret (hcore : Trims isBlank text.toList core) (h : IsSecret core n) :
    ofText text = .ok ⟨Schnorr.keyPair n⟩ := by
  have hspells : ∃ bs, Hex.Spells (String.ofList core) bs := by
    rcases Hex.spells_or_misspells (String.ofList core) with hspells | ⟨message, hmisspells⟩
    · exact hspells
    · have hnot := hmisspells.notHex
      rw [String.toList_ofList] at hnot
      exact absurd hnot (h.numeral.not_notHex (by rw [h.length]))
  obtain ⟨bs, hbs⟩ := hspells
  obtain ⟨rfl, hlength, hpositive, hbelow⟩ := (isSecret_iff_of_spells hbs).mp h
  rw [ofText_of_spells hcore hbs, secretOfBytes?, if_pos ⟨hlength, hpositive, hbelow⟩]
  rfl

theorem ofText_of_notHex (hcore : Trims isBlank text.toList core) (h : Hex.NotHex core) :
    ofText text = .error .notHex := by
  rcases Hex.spells_or_misspells (String.ofList core) with ⟨bs, hspells⟩ | ⟨message, hmisspells⟩
  · have hhex := hspells.not_notHex
    rw [String.toList_ofList] at hhex
    exact absurd h hhex
  · obtain ⟨fault, hfault, -⟩ := Hex.decode_of_misspells hmisspells
    rw [ofText, decode_of_trims hcore, hfault]

theorem ofText_of_neither (hcore : Trims isBlank text.toList core) (hhex : ¬Hex.NotHex core)
    (h : ∀ n, ¬IsSecret core n) : ofText text = .error .notAKey := by
  rcases Hex.spells_or_misspells (String.ofList core) with ⟨bs, hspells⟩ | ⟨message, hmisspells⟩
  · have hrange : ¬(bs.length = 32 ∧ 0 < natOfBytes bs ∧ natOfBytes bs < groupOrder) :=
      fun hrange => h _ ((isSecret_iff_of_spells hspells).mpr ⟨rfl, hrange⟩)
    rw [ofText_of_spells hcore hspells, secretOfBytes?, if_neg hrange]
    rfl
  · have hnot := hmisspells.notHex
    rw [String.toList_ofList] at hnot
    exact absurd hnot hhex

end Reading

section Deciding

variable {text other : String} {core otherCore : List Char} {n : Nat} {key otherKey : Key}

theorem ofText_eq_ok_iff (hcore : Trims isBlank text.toList core) :
    ofText text = .ok key ↔ ∃ n, IsSecret core n ∧ key = ⟨Schnorr.keyPair n⟩ := by
  constructor
  · intro h
    by_cases hhex : Hex.NotHex core
    · rw [ofText_of_notHex hcore hhex] at h
      cases h
    by_cases hsecret : ∃ n, IsSecret core n
    · obtain ⟨n, hn⟩ := hsecret
      rw [ofText_of_secret hcore hn] at h
      exact ⟨n, hn, (Except.ok.inj h).symm⟩
    · rw [ofText_of_neither hcore hhex (not_exists.mp hsecret)] at h
      cases h
  · rintro ⟨n, hn, rfl⟩
    exact ofText_of_secret hcore hn

-- Each fault has a text of its own.
theorem rejection_iff {result : Except KeyFault Key} (fault : KeyFault) :
    result.mapError KeyFault.rejection = .error fault.rejection ↔ result = .error fault := by
  cases result with
  | ok key => constructor <;> intro h <;> cases h
  | error found => cases found <;> cases fault <;> simp [Except.mapError, KeyFault.rejection]

theorem ofText_eq_notHex_iff (hcore : Trims isBlank text.toList core) :
    ofText text = .error .notHex ↔ Hex.NotHex core := by
  refine ⟨fun h => ?_, ofText_of_notHex hcore⟩
  by_contra hhex
  by_cases hsecret : ∃ n, IsSecret core n
  · obtain ⟨n, hn⟩ := hsecret
    cases h.symm.trans (ofText_of_secret hcore hn)
  · cases h.symm.trans (ofText_of_neither hcore hhex (not_exists.mp hsecret))

theorem ofText_eq_notAKey_iff (hcore : Trims isBlank text.toList core) :
    ofText text = .error .notAKey ↔ ¬Hex.NotHex core ∧ ∀ n, ¬IsSecret core n := by
  constructor
  · intro h
    refine ⟨fun hhex => ?_, fun n hn => ?_⟩
    · cases h.symm.trans (ofText_of_notHex hcore hhex)
    · cases h.symm.trans (ofText_of_secret hcore hn)
  · rintro ⟨hhex, hnone⟩
    exact ofText_of_neither hcore hhex hnone

theorem eq_of_same_number (hcore : Trims isBlank text.toList core)
    (hother : Trims isBlank other.toList otherCore) (hn : Hex.Numeral core n)
    (hm : Hex.Numeral otherCore n) (hkey : ofText text = .ok key)
    (hotherKey : ofText other = .ok otherKey) : otherKey = key := by
  obtain ⟨k, hsecret, rfl⟩ := (ofText_eq_ok_iff hcore).mp hkey
  obtain ⟨l, hotherSecret, rfl⟩ := (ofText_eq_ok_iff hother).mp hotherKey
  rw [hsecret.numeral.unique hn, hotherSecret.numeral.unique hm]

-- What stands between the blanks of a text decides whether it is read as a key, and which of the two
-- refusals is told where it is not. Texts for one number are read as keys that sign alike.
theorem ofText_decided_by_number (text : String) :
    ∃ core, Trims isBlank text.toList core ∧
      ((∃ key, ofText text = .ok key) ↔ ∃ n, IsSecret core n) ∧
      ((ofText text).mapError KeyFault.rejection =
          .error (.unavailable "secret key is not valid hex") ↔ Hex.NotHex core) ∧
      ((ofText text).mapError KeyFault.rejection =
          .error (.unavailable "invalid secp256k1 secret key") ↔
        ¬Hex.NotHex core ∧ ∀ n, ¬IsSecret core n) ∧
      ∀ other otherCore n key otherKey, Trims isBlank other.toList otherCore →
        Hex.Numeral core n → Hex.Numeral otherCore n → ofText text = .ok key →
        ofText other = .ok otherKey →
        otherKey.pubkey = key.pubkey ∧
          ∀ event, otherKey.respondent event = key.respondent event := by
  have hcore := trims_trim isBlank text.toList
  refine ⟨_, hcore, ?_, ?_, ?_, ?_⟩
  · constructor
    · rintro ⟨key, hkey⟩
      obtain ⟨n, hn, -⟩ := (ofText_eq_ok_iff hcore).mp hkey
      exact ⟨n, hn⟩
    · rintro ⟨n, hn⟩
      exact ⟨_, ofText_of_secret hcore hn⟩
  · exact (rejection_iff .notHex).trans (ofText_eq_notHex_iff hcore)
  · exact (rejection_iff .notAKey).trans (ofText_eq_notAKey_iff hcore)
  · intro other otherCore n key otherKey hother hn hm hkey hotherKey
    rw [eq_of_same_number hcore hother hn hm hkey hotherKey]
    exact ⟨rfl, fun _ => rfl⟩

-- The greatest secret there is, in capitals and with blanks around it, and in small letters
def greatestPadded : String :=
  "\u3000\tFFFFFFFFFFFFFFFFFFFFFFFFFFFFFFFEBAAEDCE6AF48A03BBFD25E8CD0364140\u0085\n"

def greatest : String :=
  "fffffffffffffffffffffffffffffffebaaedce6af48a03bbfd25e8cd0364140"

theorem isSecret_of_greatest {core : List Char}
    (h : core.map Char.toLower = Hex.encode (bytes32 (groupOrder - 1))) :
    IsSecret core (groupOrder - 1) := by
  have hnumber : natOfBytes (bytes32 (groupOrder - 1)) = groupOrder - 1 := by decide +kernel
  have hlength := congrArg List.length h
  rw [List.length_map, Hex.length_of_encode, bytes32, length_bytesOfNat] at hlength
  have hnumeral := Hex.numeral_of_lower h
  rw [hnumber] at hnumeral
  exact ⟨hlength, hnumeral, by decide, by decide⟩

theorem ofText_decided_of_greatest :
    ∃ key otherKey, ofText greatestPadded = .ok key ∧ ofText greatest = .ok otherKey ∧
      otherKey.pubkey = key.pubkey ∧
        ∀ event, otherKey.respondent event = key.respondent event := by
  obtain ⟨core, hcore, hread, -, -, hsame⟩ := ofText_decided_by_number greatestPadded
  obtain ⟨otherCore, hother, hreadOther, -⟩ := ofText_decided_by_number greatest
  have hsecret : IsSecret core (groupOrder - 1) := by
    rw [← trim_eq_iff.mpr hcore]
    exact isSecret_of_greatest (by decide +kernel)
  have hotherSecret : IsSecret otherCore (groupOrder - 1) := by
    rw [← trim_eq_iff.mpr hother]
    exact isSecret_of_greatest (by decide +kernel)
  obtain ⟨key, hkey⟩ := hread.mpr ⟨_, hsecret⟩
  obtain ⟨otherKey, hotherKey⟩ := hreadOther.mpr ⟨_, hotherSecret⟩
  exact ⟨key, otherKey, hkey, hotherKey, hsame greatest otherCore _ key otherKey hother
    hsecret.numeral hotherSecret.numeral hkey hotherKey⟩

end Deciding

end ChallengeLogin.Key
