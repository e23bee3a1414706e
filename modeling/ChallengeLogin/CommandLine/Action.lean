import ChallengeLogin.Action
import ChallengeLogin.CommandLine.Parser

namespace ChallengeLogin.CommandLine

def loginCommand : Command :=
  ⟨"login", [.url, .secretKey, .nonce, .showCookie, .help, .verbosity], [.url, .secretKey]⟩

def logoutCommand : Command :=
  ⟨"logout", [.url, .cookie, .help, .verbosity], [.url, .cookie]⟩

def pubkeyCommand : Command :=
  ⟨"pubkey", [.secretKey, .help, .verbosity], [.secretKey]⟩

-- The command line of the program.
def program : Interface :=
  ⟨"sigauth", [.verbosity, .help, .version], [loginCommand, logoutCommand, pubkeyCommand], true⟩

inductive ActionFault where
  | missing (opt : Opt)
  | unknownCommand
deriving DecidableEq, Repr

def ActionFault.message : ActionFault → String
  | .missing opt => "missing required argument: " ++ Opt.dashed opt.name
  | .unknownCommand => "unknown subcommand"

def demand (opt : Opt) (value : Option α) : Except ActionFault α :=
  match value with
  | some a => .ok a
  | none => .error (.missing opt)

-- The action that a command line asks for.
def Invocation.action (invocation : Invocation) : Except ActionFault Action := do
  let values := invocation.values
  match invocation.command with
  | some "login" =>
    return .login
      { url := ← demand .url values.url
        secretKey := ← demand .secretKey values.secretKey
        nonce := values.nonce
        showCookie := values.showCookie }
  | some "logout" => return .logout (← demand .url values.url) (← demand .cookie values.cookie)
  | some "pubkey" => return .pubkey (← demand .secretKey values.secretKey)
  | _ => .error .unknownCommand

end ChallengeLogin.CommandLine
