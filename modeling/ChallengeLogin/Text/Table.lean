namespace ChallengeLogin.Text.Table

def hexValue (cs : List Char) : Nat :=
  cs.foldl (fun n c => n * 16 + (if c.toNat < 58 then c.toNat - 48 else c.toNat - 87)) 0

-- The pieces of a text between separators.
def pieces (separator : Char) (cs : List Char) : List (List Char) :=
  cs.splitOnP (· == separator)

-- The pieces of a text between blanks and line breaks.
def words (cs : List Char) : List (List Char) :=
  (cs.splitOnP (fun c => c == ' ' || c == '\n')).filter (!·.isEmpty)

structure Span where
  first : Nat
  last : Nat
  value : Nat

def Span.ofText (cs : List Char) : Span :=
  let (bounds, value) :=
    match pieces ':' cs with
    | [bounds, value] => (bounds, hexValue value)
    | bounds :: _ => (bounds, 0)
    | [] => ([], 0)
  match pieces '-' bounds with
  | [first, last] => ⟨hexValue first, hexValue last, value⟩
  | _ => ⟨hexValue bounds, hexValue bounds, value⟩

def spans (text : String) : List Span :=
  (words text.toList).map Span.ofText

-- All code points of a span.
def Span.points (span : Span) : List Nat :=
  (List.range (span.last + 1 - span.first)).map (span.first + ·)

-- The value of the span that holds a code point, in a table whose spans rise.
def valueAt? (table : List Span) (n : Nat) : Option Nat :=
  (table.find? (fun span => n ≤ span.last)).bind fun span =>
    if span.first ≤ n then some span.value else none

def isIn (table : List Span) (n : Nat) : Bool :=
  (valueAt? table n).isSome

end ChallengeLogin.Text.Table
