import ChallengeLogin.Curve.Secp256k1
import ChallengeLogin.Digest.Sha256

namespace ChallengeLogin.Curve

open ChallengeLogin.Text ChallengeLogin.Digest

-- The bytes of a coordinate or of a scalar
def bytes32 (n : Nat) : Bytes :=
  bytesOfNat 32 n

-- A digest in the domain of a tag.
def taggedHash (tag : String) (message : Bytes) : Bytes :=
  let t := sha256 (Utf8.bytesOf tag)
  sha256 (t ++ t ++ message)

namespace Schnorr

-- A secret number that stands for a point with an even y, and the x of that point
structure KeyPair where
  secret : Nat
  pubkey : Bytes

-- The key pair of a secret number. Secrets of opposite points share a pair.
def keyPair (secret : Nat) : KeyPair :=
  match (Point.generator.smul secret).toAffine with
  | some (x, y) => ⟨if y % 2 = 0 then secret else groupOrder - secret, bytes32 x⟩
  | none => ⟨0, bytes32 0⟩

def challenge (r pubkey message : Bytes) : Nat :=
  natOfBytes (taggedHash "BIP0340/challenge" (r ++ pubkey ++ message)) % groupOrder

def auxiliary : Bytes := List.replicate 32 0

def nonce (key : KeyPair) (message : Bytes) : Nat :=
  let mask := taggedHash "BIP0340/aux" auxiliary
  let masked := List.zipWith (· ^^^ ·) (bytes32 key.secret) mask
  natOfBytes (taggedHash "BIP0340/nonce" (masked ++ key.pubkey ++ message)) % groupOrder

-- The sixty-four bytes of a signature: the x of the nonce's point, then the response.
def sign (key : KeyPair) (message : Bytes) : Bytes :=
  let commitment := keyPair (nonce key message)
  let e := challenge commitment.pubkey key.pubkey message
  commitment.pubkey ++ bytes32 ((commitment.secret + e * key.secret) % groupOrder)

-- Checks a signature of sixty-four bytes against a point with even y.
def verify (pubkey : Bytes) (point : Point) (message signature : Bytes) : Bool :=
  let r := natOfBytes (signature.take 32)
  let s := natOfBytes (signature.drop 32)
  if fieldOrder ≤ r || groupOrder ≤ s then false
  else
    let e := challenge (signature.take 32) pubkey message
    match ((Point.generator.smul s).add (point.smul e).neg).toAffine with
    | some (x, y) => y % 2 = 0 && x = r
    | none => false

end Schnorr

end ChallengeLogin.Curve
