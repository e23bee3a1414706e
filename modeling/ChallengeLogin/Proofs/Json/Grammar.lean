namespace ChallengeLogin.Json

-- A JSON value. A number is kept as it is written.
inductive Value where
  | null
  | bool (b : Bool)
  | number (text : List Char)
  | string (s : String)
  | array (items : List Value)
  | object (members : List (String × Value))

-- The values of all members of one name, in the order in which they stand
def occurrences (name : String) (ms : List (String × Value)) : List Value :=
  (ms.filter (fun m => m.1 = name)).map (·.2)

section Blanks

def blanks : List Char :=
  [' ', '\t', '\n', '\r']

def IsBlank (cs : List Char) : Prop :=
  ∀ c ∈ cs, c ∈ blanks

instance (cs : List Char) : Decidable (IsBlank cs) :=
  decidable_of_iff (cs.all (blanks.contains ·) = true) (by simp [IsBlank])

end Blanks

section Strings

-- A hexadecimal digit and its value
def HexDigit (c : Char) (n : Nat) : Prop :=
  "0123456789abcdef".toList[n]? = some c ∨ "0123456789ABCDEF".toList[n]? = some c

inductive FourHex : List Char → Nat → Prop
  | digits {a b c d : Char} {w x y z : Nat} (ha : HexDigit a w) (hb : HexDigit b x)
      (hc : HexDigit c y) (hd : HexDigit d z) :
      FourHex [a, b, c, d] (((w * 16 + x) * 16 + y) * 16 + z)

-- The letters of the short escapes, with the characters that they stand for
def shortEscapes : List (Char × Char) :=
  [('"', '"'), ('\\', '\\'), ('/', '/'), ('b', '\x08'), ('f', '\x0c'), ('n', '\n'), ('r', '\r'),
    ('t', '\t')]

def IsHighSurrogate (n : Nat) : Prop :=
  0xD800 ≤ n ∧ n ≤ 0xDBFF

def IsLowSurrogate (n : Nat) : Prop :=
  0xDC00 ≤ n ∧ n ≤ 0xDFFF

-- What can stand behind a backslash, and for which character. A surrogate only counts as half of a
-- pair.
inductive SpellsEscape : List Char → Char → Prop
  | short {letter c : Char} (h : (letter, c) ∈ shortEscapes) : SpellsEscape [letter] c
  | numbered {ds : List Char} {n : Nat} (h : FourHex ds n) (hhigh : ¬IsHighSurrogate n)
      (hlow : ¬IsLowSurrogate n) : SpellsEscape ('u' :: ds) (Char.ofNat n)
  | paired {ds es : List Char} {n m : Nat} (h : FourHex ds n) (hhigh : IsHighSurrogate n)
      (h' : FourHex es m) (hlow : IsLowSurrogate m) :
      SpellsEscape ('u' :: (ds ++ '\\' :: 'u' :: es))
        (Char.ofNat ((n - 0xD800) * 1024 + (m - 0xDC00) + 0x10000))

-- The ways in which a character can be spelled inside a string
inductive SpellsChar : List Char → Char → Prop
  | plain {c : Char} (hquote : c ≠ '"') (hslash : c ≠ '\\') (hcontrol : 0x20 ≤ c.toNat) :
      SpellsChar [c] c
  | escaped {ps : List Char} {c : Char} (h : SpellsEscape ps c) : SpellsChar ('\\' :: ps) c

inductive SpellsChars : List Char → List Char → Prop
  | nil : SpellsChars [] []
  | cons {ps qs cs : List Char} {c : Char} (h : SpellsChar ps c) (hs : SpellsChars qs cs) :
      SpellsChars (ps ++ qs) (c :: cs)

inductive SpellsString : List Char → String → Prop
  | quoted {ps : List Char} {s : String} (h : SpellsChars ps s.toList) :
      SpellsString ('"' :: ps ++ ['"']) s

end Strings

section Numbers

def IsDigits (cs : List Char) : Prop :=
  cs ≠ [] ∧ ∀ c ∈ cs, c.isDigit = true

-- Only zero starts with a zero.
def IsWhole (cs : List Char) : Prop :=
  IsDigits cs ∧ (cs.head? = some '0' → cs = ['0'])

inductive IsFraction : List Char → Prop
  | none : IsFraction []
  | digits {ds : List Char} (h : IsDigits ds) : IsFraction ('.' :: ds)

inductive IsExponent : List Char → Prop
  | none : IsExponent []
  | unsigned {e : Char} {ds : List Char} (he : e = 'e' ∨ e = 'E') (h : IsDigits ds) :
      IsExponent (e :: ds)
  | signed {e sign : Char} {ds : List Char} (he : e = 'e' ∨ e = 'E')
      (hsign : sign = '+' ∨ sign = '-') (h : IsDigits ds) : IsExponent (e :: sign :: ds)

inductive IsUnsigned : List Char → Prop
  | parts {whole fraction exponent : List Char} (hwhole : IsWhole whole)
      (hfraction : IsFraction fraction) (hexponent : IsExponent exponent) :
      IsUnsigned (whole ++ (fraction ++ exponent))

inductive IsNumber : List Char → Prop
  | positive {cs : List Char} (h : IsUnsigned cs) : IsNumber cs
  | negative {cs : List Char} (h : IsUnsigned cs) : IsNumber ('-' :: cs)

end Numbers

-- The parts of a text that stand for something: a value, a value with blanks around it, the items
-- of an array, a member, and the members of an object
inductive Part where
  | value (v : Value)
  | padded (v : Value)
  | items (vs : List Value)
  | member (name : String) (v : Value)
  | members (ms : List (String × Value))

inductive Spells : List Char → Part → Prop
  | null : Spells ['n', 'u', 'l', 'l'] (.value .null)
  | yes : Spells ['t', 'r', 'u', 'e'] (.value (.bool true))
  | no : Spells ['f', 'a', 'l', 's', 'e'] (.value (.bool false))
  | number {cs : List Char} (h : IsNumber cs) : Spells cs (.value (.number cs))
  | string {cs : List Char} {s : String} (h : SpellsString cs s) : Spells cs (.value (.string s))
  | emptyArray {bs : List Char} (hbs : IsBlank bs) :
      Spells ('[' :: bs ++ [']']) (.value (.array []))
  | array {cs : List Char} {vs : List Value} (h : Spells cs (.items vs)) :
      Spells ('[' :: cs ++ [']']) (.value (.array vs))
  | emptyObject {bs : List Char} (hbs : IsBlank bs) :
      Spells ('\x7b' :: bs ++ ['\x7d']) (.value (.object []))
  | object {cs : List Char} {ms : List (String × Value)} (h : Spells cs (.members ms)) :
      Spells ('\x7b' :: cs ++ ['\x7d']) (.value (.object ms))
  | padded {front cs back : List Char} {v : Value} (hfront : IsBlank front)
      (h : Spells cs (.value v)) (hback : IsBlank back) :
      Spells (front ++ (cs ++ back)) (.padded v)
  | lastItem {cs : List Char} {v : Value} (h : Spells cs (.padded v)) : Spells cs (.items [v])
  | moreItems {cs ds : List Char} {v : Value} {vs : List Value} (h : Spells cs (.padded v))
      (hs : Spells ds (.items vs)) : Spells (cs ++ ',' :: ds) (.items (v :: vs))
  | member {front key back cs : List Char} {name : String} {v : Value} (hfront : IsBlank front)
      (hkey : SpellsString key name) (hback : IsBlank back) (h : Spells cs (.padded v)) :
      Spells (front ++ (key ++ (back ++ ':' :: cs))) (.member name v)
  | lastMember {cs : List Char} {name : String} {v : Value} (h : Spells cs (.member name v)) :
      Spells cs (.members [(name, v)])
  | moreMembers {cs ds : List Char} {name : String} {v : Value} {ms : List (String × Value)}
      (h : Spells cs (.member name v)) (hs : Spells ds (.members ms)) :
      Spells (cs ++ ',' :: ds) (.members ((name, v) :: ms))

-- A text spells a value if it is the value and blanks around it.
def SpellsText (text : String) (v : Value) : Prop :=
  Spells text.toList (.padded v)

end ChallengeLogin.Json
