import ChallengeLogin.Json.Record
import ChallengeLogin.Proofs.Json.Taking

namespace ChallengeLogin.Json

open ChallengeLogin.Text

-- A member with the values that its reader takes
structure Slot (σ : Type) extends Member σ where
  take : Value → Option (σ → σ)
  takes : value.Takes take

variable {σ : Type}

-- Fills in one member. One that is not known changes nothing; one that is there already, or that
-- has a value that is not taken, is refused.
def fillOne (slots : List (Slot σ)) (record : σ) (entry : String × Value) : Option σ :=
  match slots.find? (fun slot => slot.name = entry.1) with
  | none => some record
  | some slot => if slot.present record then none else (slot.take entry.2).map (· record)

def fill (slots : List (Slot σ)) (record : σ) : List (String × Value) → Option σ
  | [] => some record
  | entry :: rest => (fillOne slots record entry).bind fun next => fill slots next rest

-- Fills in the members by position.
def fillRow (record : σ) : List (Slot σ) → List Value → Option σ
  | [], [] => some record
  | slot :: slots, v :: vs => (slot.take v).bind fun f => fillRow (f record) slots vs
  | _, _ => none

section Members

variable {slots : List (Slot σ)} {record : σ} {cs : List Char} {name : String} {v : Value}
  {rest : Symbols}

theorem find?_members (slots : List (Slot σ)) (name : String) :
    (slots.map (·.toMember)).find? (fun m => m.name.toList == name.toList) =
      (slots.find? (fun slot => slot.name = name)).map (·.toMember) := by
  have hname (slot : Slot σ) : (slot.name.toList == name.toList) = decide (slot.name = name) := by
    rw [Bool.eq_iff_iff, beq_iff_eq, decide_eq_true_iff, String.toList_inj]
  rw [List.find?_map]
  simp only [Function.comp_def, hname]

theorem colon_spelled {back : List Char} (h : IsBlank back) (rest : Symbols) :
    colon (back.map some ++ some ':' :: rest) = .ok ((), rest) := by
  rw [colon, skipSpace_blank h, skipSpace_cons rest (by decide)]
  rfl

theorem memberAt_eq (members : List (Member σ)) {s next : Symbols}
    (hkey : stringBody s = .ok (name.toList, rest)) (hcolon : colon rest = .ok ((), next)) :
    memberAt members record s =
      match members.find? (fun m => m.name.toList == name.toList) with
      | some m =>
        if m.present record then .error (.duplicateMember m.name)
        else (m.value.run next).map fun r => (r.1 record, r.2)
      | none => (skipValue next).map fun r => (record, r.2) := by
  cases hfind : members.find? (fun m => m.name.toList == name.toList) with
  | none =>
    simp only [memberAt, hkey, hfind, hcolon]
    cases skipValue next <;> rfl
  | some m =>
    simp only [memberAt, hkey, hfind, hcolon]
    cases m.value.run next <;> rfl

-- One member, from behind the quote that opens its key
theorem gives_member (slots : List (Slot σ)) (record : σ) (h : Spells cs (.member name v))
    (hrest : Detached rest) :
    ∃ s left, skipSpace (cs.map some ++ rest) = some '"' :: s ∧
      Gives (memberAt (slots.map (·.toMember)) record s) left (fillOne slots record (name, v)) ∧
      skipSpace left = skipSpace rest := by
  cases h with
  | @member front key back cs _ _ hfront hkey hback hvalue =>
    cases hkey with
    | @quoted ps _ hps =>
      have hbody := stringBody_spelled hps (back.map some ++ some ':' :: (cs.map some ++ rest))
      have hcolon := colon_spelled hback (cs.map some ++ rest)
      have hquote : isSpace (some '"') = false := by decide
      have htext : (front ++ ('"' :: ps ++ ['"'] ++ (back ++ ':' :: cs))).map some ++ rest =
          front.map some ++ some '"' :: (ps.map some ++ some '"' ::
            (back.map some ++ some ':' :: (cs.map some ++ rest))) := by simp
      rw [htext, skipSpace_blank hfront, skipSpace_cons _ hquote]
      cases hfind : slots.find? (fun slot => slot.name = name) with
      | none =>
        obtain ⟨left, hskip, hleft⟩ := skipValue_spelled hvalue hrest
        refine ⟨_, left, rfl, ?_, hleft⟩
        rw [memberAt_eq _ hbody hcolon, find?_members, hfind]
        simp only [fillOne, hfind, Option.map_none, hskip]
        rfl
      | some slot =>
        obtain ⟨left, hgives, hleft⟩ := slot.takes.padded hvalue hrest
        refine ⟨_, left, rfl, ?_, hleft⟩
        rw [memberAt_eq _ hbody hcolon, find?_members, hfind]
        simp only [fillOne, hfind, Option.map_some]
        split
        · exact ⟨_, rfl⟩
        · exact hgives.map (· record)

theorem membersFrom_eq (members : List (Member σ)) (record : σ) (s : Symbols) :
    membersFrom members record s =
      (memberAt members record s).bind fun r =>
        match afterMember r.2 with
        | .error e => .error e
        | .ok (false, rest) => finish members r.1 rest
        | .ok (true, rest) => membersFrom members r.1 rest := by
  rw [membersFrom]
  split <;> rename_i h <;> simp only [h, Except.bind]
  split <;> rename_i h' <;> simp only [h']

theorem afterMember_end {s : Symbols} (h : skipSpace s = skipSpace (some '\x7d' :: rest)) :
    afterMember s = .ok (false, rest) := by
  rw [afterMember, h, skipSpace_cons rest (by decide)]
  rfl

theorem afterMember_more {s next tail : Symbols} (h : skipSpace s = skipSpace (some ',' :: next))
    (hnext : skipSpace next = some '"' :: tail) : afterMember s = .ok (true, tail) := by
  rw [afterMember, h, skipSpace_cons next (by decide)]
  simp only [hnext]

end Members

section Objects

variable {slots : List (Slot σ)} {record : σ} {cs : List Char} {ms : List (String × Value)}

-- How reading an object ends that its members fill a record with, or fail to
def Finishes (slots : List (Slot σ)) (result : Result σ) (rest : Symbols) : Option σ → Prop
  | some record => result = finish (slots.map (·.toMember)) record rest
  | none => ∃ fault, result = .error fault

theorem Finishes.of_gives {result : Result σ} {next : σ × Symbols → Result σ} {taken : Option σ}
    {others : σ → Option σ} {left rest : Symbols} (h : Gives result left taken)
    (hnext : ∀ record, Finishes slots (next (record, left)) rest (others record)) :
    Finishes slots (result.bind next) rest (taken.bind others) := by
  cases taken with
  | none =>
    obtain ⟨fault, rfl⟩ := h
    exact ⟨fault, rfl⟩
  | some record =>
    have hok : result = .ok (record, left) := h
    rw [hok]
    exact hnext record

-- By induction on the members; the record has been filled with those before.
theorem finishes_members (h : Spells cs (.members ms)) (record : σ) (rest : Symbols) :
    ∃ s, skipSpace (cs.map some ++ some '\x7d' :: rest) = some '"' :: s ∧
      Finishes slots (membersFrom (slots.map (·.toMember)) record s) rest
        (fill slots record ms) := by
  induction ms generalizing cs record with
  | nil => cases h
  | cons entry ms ih =>
    cases h with
    | lastMember hmember =>
      have hclose : Detached (some '\x7d' :: rest) := detached_cons (by decide) rest
      obtain ⟨s, left, hquote, hgives, hleft⟩ := gives_member slots record hmember hclose
      refine ⟨s, hquote, ?_⟩
      rw [membersFrom_eq, fill]
      refine .of_gives hgives fun next => ?_
      simp only [afterMember_end hleft]
      rfl
    | @moreMembers cs ds name v _ hmember hmembers =>
      have hcomma : Detached (some ',' :: (ds.map some ++ some '\x7d' :: rest)) :=
        detached_cons (by decide) _
      obtain ⟨s, left, hquote, hgives, hleft⟩ := gives_member slots record hmember hcomma
      refine ⟨s, by simpa using hquote, ?_⟩
      rw [membersFrom_eq, fill]
      refine .of_gives hgives fun next => ?_
      obtain ⟨tail, hnext, hfinishes⟩ := ih hmembers next
      simp only [afterMember_more hleft hnext]
      exact hfinishes

theorem finishes_object (slots : List (Slot σ)) (h : Spells cs (.value (.object ms))) (empty : σ)
    (rest : Symbols) :
    Finishes slots (recordValue (slots.map (·.toMember)) empty (cs.map some ++ rest)) rest
      (fill slots empty ms) := by
  have hopen : isSpace (some '\x7b') = false := by decide
  cases h with
  | emptyObject hbs =>
    have hclose : isSpace (some '\x7d') = false := by decide
    rw [bracketed, recordValue, skipSpace_cons _ hopen]
    simp only [object?, skipSpace_blank hbs, skipSpace_cons rest hclose]
    rfl
  | object hmembers =>
    obtain ⟨s, hquote, hfinishes⟩ := finishes_members hmembers empty rest
    rw [bracketed, recordValue, skipSpace_cons _ hopen]
    simp only [object?, hquote]
    exact hfinishes

end Objects

section Arrays

variable {slots : List (Slot σ)} {record : σ} {cs : List Char} {vs : List Value} {rest : Symbols}

-- What reading an array does with the value that stands next
def element (m : Member σ) (ms : List (Member σ)) (record : σ) (s : Symbols) : Result σ :=
  (m.value.run s).bind fun r => elements ms false (r.1 record) r.2

theorem elements_first (m : Member σ) (ms : List (Member σ)) (record : σ) {s : Symbols}
    (h : StartsValue (skipSpace s)) :
    elements (m :: ms) true record s = element m ms record (skipSpace s) := by
  obtain ⟨c, tail, hstarts, -, hc⟩ := h
  rw [elements, element, hstarts]
  simp only [Option.some.injEq, hc, imp_self, ↓reduceIte]
  cases m.value.run (some c :: tail) <;> rfl

theorem elements_next (m : Member σ) (ms : List (Member σ)) (record : σ) {s next : Symbols}
    (h : skipSpace s = some ',' :: next) (hnext : StartsValue (skipSpace next)) :
    elements (m :: ms) false record s = element m ms record (skipSpace next) := by
  obtain ⟨c, tail, hstarts, -, hc⟩ := hnext
  rw [elements, element, h]
  simp only [hstarts, Option.some.injEq, List.cons.injEq, hc, Char.reduceEq, Bool.false_eq_true,
    imp_self, false_and, implies_true, ↓reduceIte]
  cases m.value.run (some c :: tail) <;> rfl

theorem elements_end (record : σ) {s : Symbols} (h : skipSpace s = some ']' :: rest) :
    elements [] false record s = .ok (record, rest) := by
  simp only [elements, arrayEnd, h]

theorem element_skipSpace (slot : Slot σ) (ms : List (Member σ)) (record : σ) (s : Symbols) :
    element slot.toMember ms record (skipSpace s) = element slot.toMember ms record s := by
  rw [element, element, slot.takes.skips]

-- By induction on the values; there is one for each member.
theorem gives_elements {v : Value} {slot : Slot σ} (h : Spells cs (.items (v :: vs)))
    (hlength : vs.length = slots.length) (record : σ) (rest : Symbols) :
    Gives (element slot.toMember (slots.map (·.toMember)) record
        (cs.map some ++ some ']' :: rest)) rest (fillRow record (slot :: slots) (v :: vs)) := by
  induction vs generalizing cs slots record v slot with
  | nil =>
    obtain rfl := List.length_eq_zero_iff.mp hlength.symm
    have hclose : Detached (some ']' :: rest) := detached_cons (by decide) rest
    have hspace : isSpace (some ']') = false := by decide
    cases h with
    | moreItems _ hitems => cases hitems
    | lastItem hitem =>
      obtain ⟨left, hgives, hleft⟩ := slot.takes.padded hitem hclose
      rw [skipSpace_cons rest hspace] at hleft
      exact hgives.bind fun f => elements_end (f record) hleft
  | cons w vs ih =>
    cases slots with
    | nil => cases hlength
    | cons other slots =>
      cases h with
      | @moreItems cs ds _ _ hitem hitems =>
        have hcomma : Detached (some ',' :: (ds.map some ++ some ']' :: rest)) :=
          detached_cons (by decide) _
        have hspace : isSpace (some ',') = false := by decide
        obtain ⟨left, hgives, hleft⟩ := slot.takes.padded hitem hcomma
        rw [skipSpace_cons _ hspace] at hleft
        have hstarts := startsValue_of_items hitems (some ']' :: rest)
        have htext : (cs ++ ',' :: ds).map some ++ some ']' :: rest =
            cs.map some ++ some ',' :: (ds.map some ++ some ']' :: rest) := by simp
        rw [htext]
        refine hgives.bind fun f => ?_
        simp only [List.map_cons]
        rw [elements_next _ _ _ hleft hstarts, element_skipSpace]
        exact ih hitems (Nat.succ.inj hlength) (f record)

theorem gives_array {v : Value} (slot : Slot σ) (h : Spells cs (.value (.array (v :: vs))))
    (hlength : vs.length = slots.length) (empty : σ) (rest : Symbols) :
    Gives (recordValue ((slot :: slots).map (·.toMember)) empty (cs.map some ++ rest)) rest
      (fillRow empty (slot :: slots) (v :: vs)) := by
  have hopen : isSpace (some '[') = false := by decide
  cases h with
  | array hitems =>
    have hstarts := startsValue_of_items hitems (some ']' :: rest)
    rw [bracketed, recordValue, skipSpace_cons _ hopen]
    simp only [List.map_cons]
    rw [elements_first _ _ _ hstarts, element_skipSpace]
    exact gives_elements hitems hlength empty rest

end Arrays

section Texts

variable {slots : List (Slot σ)} {text : String}

-- A whole text is read as a record by reading the value between the blanks around it.
theorem readRecord_spelled {v : Value} (h : SpellsText text v) (members : List (Member σ))
    (empty : σ) :
    ∃ cs rest, Spells cs (.value v) ∧ skipSpace rest = [] ∧
      readRecord members empty (text.toList.map some) =
        readRecord members empty (cs.map some ++ rest) := by
  rw [SpellsText] at h
  generalize text.toList = all at h
  cases h with
  | @padded front cs back _ hfront hvalue hback =>
    have hend := skipSpace_blank hback []
    rw [List.append_nil] at hend
    refine ⟨cs, back.map some, hvalue, hend, ?_⟩
    rw [List.map_append, List.map_append, readRecord, readRecord, recordValue, recordValue,
      skipSpace_blank hfront]

-- An object is read as the record that its members fill, unless a required one is missing.
theorem readRecord_of_fill {ms : List (String × Value)} {empty record : σ}
    (h : SpellsText text (.object ms)) (hfill : fill slots empty ms = some record) :
    readRecord (slots.map (·.toMember)) empty (text.toList.map some) =
      match firstMissing (slots.map (·.toMember)) record with
      | some name => .error (.missingMember name)
      | none => .ok record := by
  obtain ⟨cs, rest, hvalue, hend, hread⟩ := readRecord_spelled h (slots.map (·.toMember)) empty
  have hrun : recordValue (slots.map (·.toMember)) empty (cs.map some ++ rest) =
      finish (slots.map (·.toMember)) record rest := by
    have hfinishes := finishes_object slots hvalue empty rest
    rwa [hfill] at hfinishes
  rw [hread, readRecord, hrun, finish]
  cases firstMissing (slots.map (·.toMember)) record with
  | some name => rfl
  | none => simp only [hend, List.isEmpty_nil, if_true]

theorem readRecord_of_unfilled {ms : List (String × Value)} {empty : σ}
    (h : SpellsText text (.object ms)) (hfill : fill slots empty ms = none) :
    ∃ fault, readRecord (slots.map (·.toMember)) empty (text.toList.map some) = .error fault := by
  obtain ⟨cs, rest, hvalue, -, hread⟩ := readRecord_spelled h (slots.map (·.toMember)) empty
  have hfault : ∃ fault, recordValue (slots.map (·.toMember)) empty (cs.map some ++ rest) =
      .error fault := by
    have hfinishes := finishes_object slots hvalue empty rest
    rwa [hfill] at hfinishes
  obtain ⟨fault, hfault⟩ := hfault
  exact ⟨fault, by rw [hread, readRecord, hfault]⟩

-- An array with a value for each member is read as the record that they fill by position.
theorem readRecord_of_fillRow {slot : Slot σ} {v : Value} {vs : List Value} {empty record : σ}
    (h : SpellsText text (.array (v :: vs))) (hlength : vs.length = slots.length)
    (hfill : fillRow empty (slot :: slots) (v :: vs) = some record) :
    readRecord ((slot :: slots).map (·.toMember)) empty (text.toList.map some) = .ok record := by
  obtain ⟨cs, rest, hvalue, hend, hread⟩ :=
    readRecord_spelled h ((slot :: slots).map (·.toMember)) empty
  have hrun : recordValue ((slot :: slots).map (·.toMember)) empty (cs.map some ++ rest) =
      .ok (record, rest) := by
    have hgives := gives_array slot hvalue hlength empty rest
    rwa [hfill] at hgives
  rw [hread, readRecord, hrun]
  simp only [hend, List.isEmpty_nil, if_true]

end Texts

end ChallengeLogin.Json
