import ChallengeLogin.Event.Basic
import ChallengeLogin.Json.Writer
import ChallengeLogin.Json.Record

namespace ChallengeLogin

open ChallengeLogin.Text

def Tag.toJson (tag : Tag) : List Char :=
  Json.array (tag.map Json.quote)

def tagsToJson (tags : List Tag) : List Char :=
  Json.array (tags.map Tag.toJson)

-- The compact text of an unsigned event.
def UnsignedEvent.toJson (event : UnsignedEvent) : String :=
  String.ofList <| Json.object
    [ Json.member "created_at" (Json.decimal event.createdAt.toNat),
      Json.member "kind" (Json.decimal event.kind.toNat),
      Json.member "tags" (tagsToJson event.tags),
      Json.member "content" (Json.quote event.content) ]

-- The compact text of a signed event.
def SignedEvent.toJson (event : SignedEvent) : String :=
  String.ofList <| Json.object
    [ Json.member "id" (Json.quote event.id),
      Json.member "pubkey" (Json.quote event.pubkey),
      Json.member "created_at" (Json.decimal event.createdAt.toNat),
      Json.member "kind" (Json.decimal event.kind.toNat),
      Json.member "tags" (tagsToJson event.tags),
      Json.member "content" (Json.quote event.content),
      Json.member "sig" (Json.quote event.sig) ]

namespace SignedEvent

-- A signed event while its members are being read
structure Partial where
  id : Option String := none
  pubkey : Option String := none
  createdAt : Option UInt64 := none
  kind : Option UInt16 := none
  tags : Option (List Tag) := none
  content : Option String := none
  sig : Option String := none

def members : List (Json.Member Partial) :=
  [ ⟨"id", true, (·.id.isSome), Json.Reader.string.map fun v p => { p with id := some v }⟩,
    ⟨"pubkey", false, (·.pubkey.isSome),
      Json.Reader.string.map fun v p => { p with pubkey := some v }⟩,
    ⟨"created_at", true, (·.createdAt.isSome),
      (Json.Reader.natural Json.maxUnsigned).map fun v p =>
        { p with createdAt := some (UInt64.ofNat v) }⟩,
    ⟨"kind", true, (·.kind.isSome),
      (Json.Reader.natural 65535).map fun v p => { p with kind := some (UInt16.ofNat v) }⟩,
    ⟨"tags", true, (·.tags.isSome),
      Json.Reader.string.list.list.map fun v p => { p with tags := some v }⟩,
    ⟨"content", true, (·.content.isSome),
      Json.Reader.string.map fun v p => { p with content := some v }⟩,
    ⟨"sig", true, (·.sig.isSome), Json.Reader.string.map fun v p => { p with sig := some v }⟩ ]

-- Every required member is there once the reading of a record has succeeded
def Partial.complete (p : Partial) : SignedEvent where
  id := p.id.getD ""
  pubkey := p.pubkey.getD ""
  createdAt := p.createdAt.getD 0
  kind := p.kind.getD 0
  tags := p.tags.getD []
  content := p.content.getD ""
  sig := p.sig.getD ""

-- Reads the JSON text of a signed event.
def ofJson (text : String) : Except Json.Fault SignedEvent :=
  (Json.readRecord members {} (text.toList.map some)).map Partial.complete

end SignedEvent

end ChallengeLogin
