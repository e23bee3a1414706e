import ChallengeLogin.Log.Basic
import ChallengeLogin.Text.Utf8

namespace ChallengeLogin

open ChallengeLogin.Text

structure Patch where
  selector : String
  html : String
deriving DecidableEq, Repr

-- The name of the way in which patches are put in place.
def Patch.style : String := "innerHTML"

-- The selector of a region named by a header: an id, which may have its sign in front already.
def selectorOf (target : String) : String :=
  match target.toList with
  | '#' :: _ => target
  | _ => "#" ++ target

-- The patch of the region that a header names.
def Patch.ofTarget (target html : String) : Patch :=
  ⟨selectorOf target, html⟩

-- The pieces in which the line of a patch is written.
def Patch.pieces (patch : Patch) : List String :=
  ["[", patch.selector, "] (", style, ") ", patch.html, "\n"]

-- The line that shows a patch.
def Patch.line (patch : Patch) : String :=
  String.join patch.pieces

-- Whatever patches are put in place through: a state, and what a patch makes of it
structure Port where
  State : Type
  state : State
  swap : State → Patch → State

namespace Port

def put (port : Port) (patch : Patch) : Port :=
  { port with state := port.swap port.state patch }

def putAll (port : Port) (patches : List Patch) : Port :=
  patches.foldl put port

-- A port that remembers the patches put in place through it, behind those that it knows already.
def recorder (patches : List Patch := []) : Port :=
  ⟨List Patch, patches, fun patches patch => patches ++ [patch]⟩

end Port

-- Takes bytes until its room is used up. A sink without a limit takes all.
structure Sink where
  room : Option Nat := none
  written : Bytes := []
deriving DecidableEq, Repr

namespace Sink

-- Writes a piece, or as much of it as there is room for. Says whether all of it is written.
def write (sink : Sink) (piece : Bytes) : Sink × Bool :=
  match sink.room with
  | none => ({ sink with written := sink.written ++ piece }, true)
  | some room =>
    (⟨some (room - piece.length), sink.written ++ piece.take room⟩, piece.length ≤ room)

-- Writes pieces up to the first one that fails.
def writeAll (sink : Sink) : List Bytes → Sink × Bool
  | [] => (sink, true)
  | piece :: rest =>
    match sink.write piece with
    | (next, true) => next.writeAll rest
    | (next, false) => (next, false)

-- Writes the line of a patch.
def put (sink : Sink) (patch : Patch) : Sink × Bool :=
  sink.writeAll (patch.pieces.map Utf8.bytesOf)

-- Writes the lines of patches, each of them tried whatever became of those before.
def putAll (sink : Sink) (patches : List Patch) : Sink :=
  patches.foldl (fun sink patch => (sink.put patch).1) sink

def text (sink : Sink) : String :=
  String.ofList (Utf8.decodeLossy sink.written)

-- The port that writes the lines of patches to a sink.
def port (sink : Sink) : Port :=
  ⟨Sink, sink, fun sink patch => (sink.put patch).1⟩

end Sink

end ChallengeLogin
