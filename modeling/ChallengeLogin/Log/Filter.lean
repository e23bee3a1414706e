import ChallengeLogin.Log.Basic
import ChallengeLogin.Text.Blank
import ChallengeLogin.Text.Numeral

namespace ChallengeLogin.Log

open ChallengeLogin.Text

-- What a directive lets through; `none` is nothing at all.
abbrev Threshold := Option Level

def Threshold.rank (threshold : Threshold) : Nat :=
  (threshold.map Level.rank).getD 0

-- One part of a filter: a level, a target, a target and a level, or a span in brackets with or
-- without them
structure Directive where
  target : Option (List Char) := none
  span : Option (List Char) := none
  -- what is asked of the fields of a span, as it is written
  fields : Option (List Char) := none
  threshold : Threshold := some .trace
deriving DecidableEq, Repr

def levelNames : List (List Char × Threshold) :=
  [ (['o', 'f', 'f'], none),
    (['e', 'r', 'r', 'o', 'r'], some .error),
    (['w', 'a', 'r', 'n'], some .warn),
    (['i', 'n', 'f', 'o'], some .info),
    (['d', 'e', 'b', 'u', 'g'], some .debug),
    (['t', 'r', 'a', 'c', 'e'], some .trace) ]

-- Reads a level by number, from 0 for nothing to 5 for everything, or by name. No text at all is
-- the level of errors.
def Threshold.ofText? (cs : List Char) : Option Threshold :=
  match (natural? cs).bind ((levelNames.map (·.2))[·]?) with
  | some threshold => some threshold
  | none => if cs.isEmpty then some (some .error) else levelNames.lookup (cs.map Char.toLower)

namespace Directive

-- A text that is read while another one, as long or longer, is cut: the characters of both side by
-- side, and what the longer one has left. The two differ only where blanks stand in front.
structure Cut where
  pairs : List (Char × Char)
  rest : List Char

namespace Cut

def ofText (raw : List Char) : Cut :=
  let seen := trim isBlank raw
  ⟨seen.zip raw, raw.drop seen.length⟩

def first? (cut : Cut) : Option Char :=
  cut.pairs.head?.map (·.1)

-- Cuts at the first character that satisfies `p`.
def split (p : Char → Bool) (cut : Cut) : List Char × Cut :=
  let front := cut.pairs.takeWhile (fun q => !p q.1)
  (front.map (·.2), { cut with pairs := cut.pairs.drop front.length })

def skip (cut : Cut) : Cut :=
  { cut with pairs := cut.pairs.drop 1 }

-- All that is left.
def all (cut : Cut) : List Char :=
  cut.pairs.map (·.2) ++ cut.rest

end Cut

-- A level up to the end. No text at all is the lowest one here.
def withLevel? (directive : Directive) (cut : Cut) : Option Directive :=
  if cut.all.isEmpty then some directive
  else (Threshold.ofText? cut.all).map fun threshold => { directive with threshold }

-- Behind the bracket that closes a span: nothing, or a level.
def behindSpan? (directive : Directive) (cut : Cut) : Option Directive :=
  match cut.first? with
  | none => some directive
  | some '=' => directive.withLevel? cut.skip
  | some _ => none

-- Behind the bracket that opens a span.
def spanned? (directive : Directive) (cut : Cut) : Option Directive :=
  let (name, behind) := cut.split (fun c => c == ']' || c == '{')
  match behind.first? with
  | some ']' => { directive with span := some name }.behindSpan? behind.skip
  | some '{' =>
    let (field, last) := behind.skip.split (· == '}')
    let named := if name.isEmpty then none else some name
    if field.isEmpty || last.first?.isNone || last.skip.first? != some ']' then none
    else { directive with span := named, fields := some field }.behindSpan? last.skip.skip
  | _ => none

def canStart (c : Char) : Bool :=
  c == '-' || c == ':' || c == '_' || c.isAlphanum || 0x80 ≤ c.toNat

-- A level or a target, the latter with a span or a level behind it.
def unspanned? (cut : Cut) : Option Directive :=
  let (name, behind) := cut.split (fun c => c == '=' || c == '[')
  match behind.first? with
  | none =>
    let text := name ++ behind.rest
    match Threshold.ofText? text with
    | some threshold => some { threshold }
    | none => some { target := some text }
  | some '[' => ({ target := some name } : Directive).spanned? behind.skip
  | some _ => ({ target := some name } : Directive).withLevel? behind.skip

-- Reads one directive.
def ofText? (text : List Char) : Option Directive :=
  let cut := Cut.ofText text
  match cut.first? with
  | none => none
  | some '[' => ({} : Directive).spanned? cut.skip
  | some c => if canStart c then unspanned? cut else none

def hasTarget (directive : Directive) (target : String) : Bool :=
  match directive.target with
  | none => true
  | some text => text.isPrefixOf target.toList

def weight (directive : Directive) : Nat :=
  match directive.target with
  | none => 0
  | some text => text.length + 1

-- Whether the directive is about this span.
def opens (directive : Directive) (span : Span) : Bool :=
  directive.span == some span.name.toList && directive.hasTarget span.target

end Directive

structure Filter where
  directives : List Directive
deriving DecidableEq, Repr

namespace Filter

-- The parts of a text between commas.
def parts (cs : List Char) : List (List Char) :=
  cs.foldr (fun c acc => match acc with
    | [] => if c = ',' then [[], []] else [[c]]
    | part :: rest => if c = ',' then [] :: part :: rest else (c :: part) :: rest) [[]]

-- The filter of a text. Directives that cannot be read are left out; where none is left, everything
-- up to the given level passes.
def ofText (text : String) (level : Level) : Filter :=
  match ((parts text.toList).filter (!·.isEmpty)).filterMap Directive.ofText? with
  | [] => ⟨[{ threshold := some level }]⟩
  | directives => ⟨directives⟩

-- The directive with the longest target; of two with the same target the later one
def decisive? (directives : List Directive) : Option Directive :=
  directives.foldl (fun best d => match best with
    | none => some d
    | some b => if b.weight ≤ d.weight then some d else some b) none

-- What the directives without spans let through of a target.
def threshold (filter : Filter) (target : String) : Threshold :=
  let plain := filter.directives.filter (fun d => d.span.isNone && d.hasTarget target)
  (decisive? plain).bind (·.threshold)

-- Holds of the entries that pass where no directive asks for fields: of the directives whose target
-- is a prefix of an entry's target the longest decides, and a directive with a span decides for
-- everything inside it.
def passesPlainly (filter : Filter) (entry : Entry) : Bool :=
  entry.level.rank ≤ Threshold.rank (filter.threshold entry.target) ||
    entry.spans.any fun span =>
      filter.directives.any fun d => d.opens span && entry.level.rank ≤ d.threshold.rank

-- How the log library matches fields, by patterns of its own: whether an entry passes directives of
-- which some ask for fields.
class FieldRules where
  passes : List Directive → Entry → Bool

-- The rules under which directives that ask for fields decide nothing.
@[reducible] def FieldRules.idle : FieldRules where
  passes directives := passesPlainly ⟨directives.filter (·.fields.isNone)⟩

-- Holds of the entries that pass.
def passes [FieldRules] (filter : Filter) (entry : Entry) : Bool :=
  if filter.directives.any (·.fields.isSome) then FieldRules.passes filter.directives entry
  else filter.passesPlainly entry

def apply [FieldRules] (filter : Filter) (entries : List Entry) : List Entry :=
  entries.filter filter.passes

end Filter

end ChallengeLogin.Log
