import ChallengeLogin.Event.Json
import ChallengeLogin.Text.Hex
import ChallengeLogin.Digest.Sha256

namespace ChallengeLogin

open ChallengeLogin.Text ChallengeLogin.Digest

-- The text whose digest identifies the event under a public key.
def UnsignedEvent.hashedText (event : UnsignedEvent) (pubkey : String) : List Char :=
  Json.array
    [ Json.decimal 0,
      Json.quote pubkey,
      Json.decimal event.createdAt.toNat,
      Json.decimal event.kind.toNat,
      tagsToJson event.tags,
      Json.quote event.content ]

def UnsignedEvent.digest (event : UnsignedEvent) (pubkey : String) : Bytes :=
  sha256 (Utf8.encode (event.hashedText pubkey))

-- The id that a signed event must carry.
def SignedEvent.expectedId (event : SignedEvent) : String :=
  String.ofList (Hex.encode (event.unsigned.digest event.pubkey))

end ChallengeLogin
