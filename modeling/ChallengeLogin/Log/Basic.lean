namespace ChallengeLogin.Log

inductive Level where
  | error
  | warn
  | info
  | debug
  | trace
deriving DecidableEq, Repr

namespace Level

def name : Level → String
  | .error => "ERROR"
  | .warn => "WARN"
  | .info => "INFO"
  | .debug => "DEBUG"
  | .trace => "TRACE"

-- How much a level lets through: one for errors alone, five for everything.
def rank : Level → Nat
  | .error => 1
  | .warn => 2
  | .info => 3
  | .debug => 4
  | .trace => 5

-- The level that a number of verbosity steps asks for. Steps beyond the last level add nothing.
def ofCount : Nat → Level
  | 0 => .error
  | 1 => .warn
  | 2 => .info
  | 3 => .debug
  | _ => .trace

end Level

-- What an entry or a span tells beside its message or name
structure Field where
  name : String
  value : String
deriving DecidableEq, Repr

def Field.text (field : Field) : String :=
  field.name ++ "=" ++ field.value

-- A stretch of work with a name, opened by one part of the program. A span may learn more fields
-- while it is open.
structure Span where
  target : String
  name : String
  fields : List Field := []
deriving DecidableEq, Repr

def Span.text (span : Span) : String :=
  if span.fields.isEmpty then span.name
  else span.name ++ "\x7b" ++ " ".intercalate (span.fields.map Field.text) ++ "\x7d"

-- An entry, with the spans that are open around it as they are known at that time, the outermost
-- first
structure Entry where
  level : Level
  target : String
  message : String
  fields : List Field := []
  spans : List Span := []
deriving DecidableEq, Repr

-- The entry within one more span.
def Entry.within (span : Span) (entry : Entry) : Entry :=
  { entry with spans := span :: entry.spans }

-- The line that shows an entry.
def Entry.line (entry : Entry) : String :=
  let spans := entry.spans.map (·.text ++ ":")
  " ".intercalate
    (entry.level.name :: (if spans.isEmpty then [] else [String.join spans]) ++
      entry.message :: entry.fields.map Field.text)

end ChallengeLogin.Log
