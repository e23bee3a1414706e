import ChallengeLogin.Log.Basic
import ChallengeLogin.Text.Blank
import ChallengeLogin.Text.Case
import ChallengeLogin.Text.Numeral
import ChallengeLogin.Url.Parser

namespace ChallengeLogin.CommandLine

open ChallengeLogin.Text

inductive Opt where
  | url
  | secretKey
  | nonce
  | showCookie
  | cookie
  | verbosity
  | help
  | version
deriving DecidableEq, Repr

-- How an option is used.
inductive Use where
  -- with a value, at most once
  | valued
  -- without a value, at most once
  | bare
  -- without a value; each use counts one more
  | counted
  -- in place of everything else
  | shown
deriving DecidableEq, Repr

namespace Opt

def use : Opt → Use
  | .url | .secretKey | .nonce | .cookie => .valued
  | .showCookie => .bare
  | .verbosity => .counted
  | .help | .version => .shown

def name : Opt → String
  | .url => "url"
  | .secretKey => "secret-key"
  | .nonce => "nonce"
  | .showCookie => "show-cookie"
  | .cookie => "cookie"
  | .verbosity => "verbose"
  | .help => "help"
  | .version => "version"

def letter? : Opt → Option Char
  | .url => some 'u'
  | .secretKey => some 'k'
  | .nonce => some 'n'
  | .showCookie => none
  | .cookie => some 'c'
  | .verbosity => some 'v'
  | .help => some 'h'
  | .version => some 'V'

-- The environment variable that stands in for an option.
def envName? : Opt → Option String
  | .url => some "SIGAUTH_URL"
  | .secretKey => some "SIGAUTH_SECRET_KEY"
  | .nonce => some "SIGAUTH_NONCE"
  | .cookie => some "SIGAUTH_COOKIE"
  | .verbosity => some "SIGAUTH_LOG_LEVEL"
  | .showCookie | .help | .version => none

-- How faults call a word that has this name.
def dashed (name : String) : String :=
  "--" ++ name

-- How faults call an option that takes a value.
def valuedLabel (name : String) : String :=
  dashed name ++ " <" ++ name ++ ">"

-- How faults call an option.
def label (opt : Opt) : String :=
  match opt.use with
  | .valued => valuedLabel opt.name
  | .bare | .shown => dashed opt.name
  | .counted => dashed opt.name ++ "..."

end Opt

section Values

-- The names of the log levels, by the number of steps that they stand for.
def levelNames : List String :=
  ["error", "warn", "info", "debug", "trace"]

def badLevel : String :=
  "invalid log level, use one of: " ++ String.intercalate ", " levelNames

-- Reads a number of verbosity steps: from zero to four, or the name of a level in any letter case.
def stepsOf (text : String) : Except String Nat :=
  let cs := lowerCase (trim isBlank text.toList)
  match (natural? cs).filter (· < levelNames.length) with
  | some n => .ok n
  | none =>
    match levelNames.idxOf? (String.ofList cs) with
    | some n => .ok n
    | none => .error badLevel

-- Reads the URL of a site, which must be one of the web.
def siteOf (text : String) : Except String Url :=
  match Url.parse text with
  | .error fault => .error ("invalid url: " ++ fault.message)
  | .ok url =>
    if url.scheme = "http" ∨ url.scheme = "https" then .ok url
    else .error ("unsupported scheme: " ++ url.scheme)

end Values

end ChallengeLogin.CommandLine
