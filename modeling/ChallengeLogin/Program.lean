import ChallengeLogin.CommandLine.Action
import ChallengeLogin.Log.Filter
import ChallengeLogin.Telemetry

namespace ChallengeLogin.Program

open ChallengeLogin.CommandLine

-- The variable that holds the log filter.
def filterVariable : String := "RUST_LOG"

-- The variable that switches traces on and names where they go.
def endpointVariable : String := "OTEL_EXPORTER_OTLP_ENDPOINT"

-- The variable that names another place for traces.
def traceEndpointVariable : String := "OTEL_EXPORTER_OTLP_TRACES_ENDPOINT"

-- What a run leaves behind: what it printed, the chain of messages if it went wrong, its requests
-- and log.
structure Run where
  exitCode : Nat
  output : String := ""
  failure : Option (List String) := none
  requests : List Http.Request := []
  log : List Log.Entry := []

def Run.failed (message : String) : Run :=
  { exitCode := 1, failure := some [message] }

-- A message whose lines behind the first one are moved in.
def indented (indent message : String) : String :=
  ("\n" ++ indent).intercalate (message.splitOn "\n")

def numberedCause (i : Nat) (message : String) : String :=
  let number := toString i
  "\n" ++ "".pushn ' ' (5 - number.length) ++ number ++ ": " ++ indented "       " message

-- The causes of a fault below its message, with numbers if there are several.
def causesText : List String → String
  | [] => ""
  | [message] => "\n\nCaused by:\n    " ++ indented "    " message
  | messages => "\n\nCaused by:" ++ String.join (messages.mapIdx numberedCause)

-- The text with which a run that went wrong ends.
def Run.errorText (run : Run) : Option String :=
  run.failure.map fun chain =>
    "Error: " ++ chain.headD "" ++ causesText (chain.drop 1) ++ "\n"

def valueOf? (environment : Environment) (name : String) : Option String :=
  environment.lookup name

-- Where traces go, if anywhere.
def endpoint? (environment : Environment) : Option String :=
  (valueOf? environment endpointVariable).map fun endpoint =>
    (valueOf? environment traceEndpointVariable).getD endpoint

def filter (environment : Environment) (invocation : Invocation) : Log.Filter :=
  .ofText ((valueOf? environment filterVariable).getD "") (.ofCount invocation.verbosity)

def shuttingDown : Log.Entry :=
  ⟨.debug, "sigauth::cli::telemetry", "shutting down tracer provider", [], []⟩

-- The run of an action.
def perform [Http.Client] [Log.Filter.FieldRules] (action : Action) (filter : Log.Filter)
    (traced : Bool) (now : Moment) (peer : Http.Peer) : Run :=
  let report := action.execute now peer
  { exitCode := if report.failure.isSome then 1 else 0
    output := report.output
    failure := report.failure
    requests := report.requests
    log := filter.apply (report.log ++ if traced then [shuttingDown] else []) }

-- A run of the program at a given time against a peer.
def run [Http.Client] [Log.Filter.FieldRules] (environment : Environment) (words : List String)
    (now : Moment) (peer : Http.Peer) : Run :=
  match program.parse environment words with
  | .error fault => { exitCode := fault.exitCode }
  | .ok invocation =>
    match (endpoint? environment).bind Telemetry.complaint? with
    | some complaint => .failed complaint
    | none =>
      match invocation.action with
      | .error fault => .failed fault.message
      | .ok action =>
        perform action (filter environment invocation) (endpoint? environment).isSome now peer

end ChallengeLogin.Program
