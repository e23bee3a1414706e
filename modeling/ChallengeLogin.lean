import ChallengeLogin.Main
import ChallengeLogin.Proofs.Json.Scalar
import ChallengeLogin.Proofs.Text.Hex
import ChallengeLogin.Proofs.Json.Reading
import ChallengeLogin.Proofs.Json.Written
import ChallengeLogin.Proofs.Event.Json
import ChallengeLogin.Proofs.Event.Id
import ChallengeLogin.Proofs.Curve.Field
import ChallengeLogin.Proofs.Curve.Group
import ChallengeLogin.Proofs.Curve.Order
import ChallengeLogin.Proofs.Curve.Schnorr
import ChallengeLogin.Proofs.Key
import ChallengeLogin.Proofs.Attempt.Outcome
import ChallengeLogin.Proofs.Attempt.Acceptance
import ChallengeLogin.Proofs.Attempt.Transmission
import ChallengeLogin.Proofs.Challenge
import ChallengeLogin.Proofs.Login.Posting
import ChallengeLogin.Proofs.Login.Success
import ChallengeLogin.Proofs.Attempt.Succession
import ChallengeLogin.Proofs.Attempt.Secrecy
import ChallengeLogin.Proofs.CommandLine.ShowCookie
import ChallengeLogin.Proofs.Login.Secrecy
import ChallengeLogin.Proofs.Json.Grammar
import ChallengeLogin.Proofs.Json.Skipping
import ChallengeLogin.Proofs.Json.Taking
import ChallengeLogin.Proofs.Json.Filling
import ChallengeLogin.Proofs.Json.Occurrences
import ChallengeLogin.Proofs.Event.Acceptance
import ChallengeLogin.Proofs.Reply.Routing
import ChallengeLogin.Proofs.Attempt.Selector
import ChallengeLogin.Proofs.Http.Confinement
import ChallengeLogin.Proofs.Text.Spelling
import ChallengeLogin.Proofs.Curve.Verification
import ChallengeLogin.Proofs.Event.Verification
import ChallengeLogin.Proofs.Session.Confinement
import ChallengeLogin.Proofs.Session.Reading
import ChallengeLogin.Proofs.Reply.Capture
import ChallengeLogin.Proofs.Session.Closing
import ChallengeLogin.Proofs.CommandLine.Site
import ChallengeLogin.Proofs.Http.Addresses
import ChallengeLogin.Proofs.Login.Faults
import ChallengeLogin.Proofs.Program.Addresses
import ChallengeLogin.Proofs.Key.Reading
import ChallengeLogin.Proofs.Challenge.Page
import ChallengeLogin.Proofs.CommandLine.Verbosity
import ChallengeLogin.Proofs.CommandLine.Levels
import ChallengeLogin.Proofs.Patch
import ChallengeLogin.Proofs.Attempt.Fidelity
import ChallengeLogin.Proofs.CommandLine.Asking
