import ChallengeLogin.Event.Basic

namespace ChallengeLogin

inductive Rejection where
  | unavailable (reason : String)
  | declined
  | failed (reason : String)
deriving DecidableEq, Repr

def Rejection.message : Rejection → String
  | .unavailable reason => "signing capability unavailable: " ++ reason
  | .declined => "signing declined by user"
  | .failed reason => "signer failed: " ++ reason

-- One answer to every event
abbrev Respondent := UnsignedEvent → Except Rejection SignedEvent

-- The answer where no signer is present.
def Respondent.absent : Respondent :=
  fun _ => .error (.unavailable "no signer configured")

-- A signer answers an unsigned event with its signed copy or with a rejection. What it has been
-- asked before may change its answer.
structure Signer where
  State : Type
  state : State
  answer : State → UnsignedEvent → Except Rejection SignedEvent × State

namespace Signer

-- A signer that answers every time alike.
def constant (respondent : Respondent) : Signer :=
  ⟨Unit, (), fun _ event => (respondent event, ())⟩

-- The answer of a signer, and the signer as it is left.
def ask (signer : Signer) (event : UnsignedEvent) : Except Rejection SignedEvent × Signer :=
  let (answer, state) := signer.answer signer.state event
  (answer, { signer with state })

-- The signer once it has been asked about these events.
def after (signer : Signer) (events : List UnsignedEvent) : Signer :=
  events.foldl (fun signer event => (signer.ask event).2) signer

@[simp] theorem ask_constant (respondent : Respondent) (event : UnsignedEvent) :
    (constant respondent).ask event = (respondent event, constant respondent) := rfl

theorem exists_ask {signer : Signer} {event : UnsignedEvent}
    {answer : Except Rejection SignedEvent} (h : (signer.ask event).1 = answer) :
    ∃ left, signer.ask event = (answer, left) :=
  ⟨_, Prod.ext h rfl⟩

end Signer

end ChallengeLogin
