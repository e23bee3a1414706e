import ChallengeLogin.Program
import Std.Time.DateTime.Timestamp

open ChallengeLogin ChallengeLogin.CommandLine

-- The variables that the program looks at.
def variableNames : List String :=
  [.url, .secretKey, .nonce, .cookie, .verbosity].filterMap Opt.envName? ++
    [Program.filterVariable, Program.endpointVariable, Program.traceEndpointVariable]

def environment : IO Environment :=
  variableNames.filterMapM fun name => do
    return (← IO.getEnv name).map fun value => (name, value)

-- The last digits of a number to the base of thirty-two.
def lastDigits : Nat → Nat → List Char
  | 0, _ => []
  | count + 1, n =>
    lastDigits count (n / 32) ++ ["0123456789ABCDEFGHJKMNPQRSTVWXYZ".toList.getD (n % 32) '0']

-- An id of twenty-six digits, with the time in front and random bits behind.
def ulid (milliseconds random : Nat) : String :=
  String.ofList (lastDigits 10 milliseconds ++ lastDigits 16 random)

-- Nothing gets through to a peer, so that no client is asked to decode a text.
attribute [local instance] Http.Client.plain Log.Filter.FieldRules.idle

-- The command line program.
def main (words : List String) : IO UInt32 := do
  let clock ← Std.Time.Timestamp.now
  let seconds := clock.toSecondsSinceUnixEpoch.val.toNat
  let milliseconds := clock.toMillisecondsSinceUnixEpoch.val.toNat
  let now : Moment := ⟨UInt64.ofNat seconds, ulid milliseconds (← IO.rand 0 ((1 <<< 80) - 1))⟩
  let run := Program.run (← environment) words now .outOfReach
  IO.print run.output
  for entry in run.log do
    IO.eprintln entry.line
  if let some text := run.errorText then
    IO.eprint text
  return UInt32.ofNat run.exitCode
