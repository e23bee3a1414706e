import ChallengeLogin.Curve.Schnorr
import ChallengeLogin.Event.Id
import ChallengeLogin.Signer
import ChallengeLogin.Text.Blank

namespace ChallengeLogin

open ChallengeLogin.Text ChallengeLogin.Curve

-- A secret key that can sign.
structure Key where
  pair : Schnorr.KeyPair

inductive KeyFault where
  | notHex
  | notAKey
deriving DecidableEq, Repr

def KeyFault.rejection : KeyFault → Rejection
  | .notHex => .unavailable "secret key is not valid hex"
  | .notAKey => .unavailable "invalid secp256k1 secret key"

namespace Key

-- The number of a secret key: thirty-two bytes, neither zero nor at the group order or above.
def secretOfBytes? (bs : Bytes) : Option Nat :=
  let n := natOfBytes bs
  if bs.length = 32 ∧ 0 < n ∧ n < groupOrder then some n else none

-- Reads a key from hexadecimal text. Blanks around the digits are ignored.
def ofText (text : String) : Except KeyFault Key :=
  match Hex.decode (trimBlank text) with
  | .error _ => .error .notHex
  | .ok bs =>
    match secretOfBytes? bs with
    | some n => .ok ⟨Schnorr.keyPair n⟩
    | none => .error .notAKey

def pubkey (key : Key) : String :=
  String.ofList (Hex.encode key.pair.pubkey)

-- What is shown of a key in diagnostics.
def describe (key : Key) : String :=
  "LocalKeySigner \x7b pubkey: \"" ++ key.pubkey ++ "\", .. \x7d"

def sign (key : Key) (event : UnsignedEvent) : SignedEvent :=
  let digest := event.digest key.pubkey
  event.attach (String.ofList (Hex.encode digest)) key.pubkey
    (String.ofList (Hex.encode (Schnorr.sign key.pair digest)))

-- The key as a signer. It never refuses.
def respondent (key : Key) : Respondent :=
  fun event => .ok (key.sign event)

end Key

inductive VerifyFault where
  | idMismatch
  | hex (fault : Hex.Fault)
  | malformedSignature
  | malformedPubkey
  | badSignature
deriving DecidableEq, Repr

def VerifyFault.message : VerifyFault → String
  | .idMismatch => "id mismatch"
  | .hex fault => fault.message
  | .malformedSignature => "malformed signature"
  | .malformedPubkey => "malformed public key"
  | .badSignature => "signature failed verification"

-- The point of a public key, if its bytes are those of one.
def pointOfBytes? (bs : Bytes) : Option Point :=
  if bs.length = 32 then Point.liftX (natOfBytes bs) else none

def hexField (text : String) : Except VerifyFault Bytes :=
  (Hex.decode text).mapError .hex

-- Checks a signed event: its id, then the form of the signature and of the public key, then the
-- signature itself.
def SignedEvent.verify (event : SignedEvent) : Except VerifyFault Unit :=
  if event.id ≠ event.expectedId then .error .idMismatch
  else
    match hexField event.sig with
    | .error fault => .error fault
    | .ok signature =>
      if signature.length ≠ 64 then .error .malformedSignature
      else
        match hexField event.pubkey with
        | .error fault => .error fault
        | .ok pubkey =>
          match pointOfBytes? pubkey with
          | none => .error .malformedPubkey
          | some point =>
            if Schnorr.verify pubkey point (event.unsigned.digest event.pubkey) signature then
              .ok ()
            else .error .badSignature

end ChallengeLogin
