import ChallengeLogin.Text.Utf8

namespace ChallengeLogin.Text

-- The number that bytes spell
def natOfBytes (bs : Bytes) : Nat :=
  bs.foldl (fun n b => n * 256 + b.toNat) 0

-- The lowest `count` bytes of a number
def bytesOfNat : Nat → Nat → Bytes
  | 0, _ => []
  | count + 1, n => bytesOfNat count (n / 256) ++ [UInt8.ofNat n]

theorem length_bytesOfNat (count n : Nat) : (bytesOfNat count n).length = count := by
  induction count generalizing n with
  | zero => rfl
  | succ count ih => simp [bytesOfNat, ih]

theorem natOfBytes_append_singleton (bs : Bytes) (b : UInt8) :
    natOfBytes (bs ++ [b]) = natOfBytes bs * 256 + b.toNat := by
  simp [natOfBytes]

end ChallengeLogin.Text
