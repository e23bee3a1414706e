namespace ChallengeLogin

-- A list of texts, kept as it is
abbrev Tag := List String

-- The kind of every event that answers a challenge.
def authKind : UInt16 := 27235

structure UnsignedEvent where
  createdAt : UInt64
  kind : UInt16
  tags : List Tag
  content : String
deriving DecidableEq, Repr

structure SignedEvent where
  id : String
  pubkey : String
  createdAt : UInt64
  kind : UInt16
  tags : List Tag
  content : String
  sig : String
deriving DecidableEq, Repr

-- The event that answers the challenge `nonce` at a given time.
def UnsignedEvent.ofNonce (nonce : String) (now : UInt64) : UnsignedEvent :=
  ⟨now, authKind, [], nonce⟩

-- The signed copy of an event.
def UnsignedEvent.attach (event : UnsignedEvent) (id pubkey sig : String) : SignedEvent :=
  ⟨id, pubkey, event.createdAt, event.kind, event.tags, event.content, sig⟩

-- The event without what a signer adds.
def SignedEvent.unsigned (event : SignedEvent) : UnsignedEvent :=
  ⟨event.createdAt, event.kind, event.tags, event.content⟩

@[simp] theorem UnsignedEvent.unsigned_attach (event : UnsignedEvent) (id pubkey sig : String) :
    (event.attach id pubkey sig).unsigned = event := rfl

end ChallengeLogin
