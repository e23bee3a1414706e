import ChallengeLogin.Json.Skip

namespace ChallengeLogin.Json

open ChallengeLogin.Text

-- A member of a record that is filled in step by step
structure Member (σ : Type) where
  name : String
  required : Bool
  present : σ → Bool
  value : Reader (σ → σ)

variable {σ : Type}

-- The first required member, in order of declaration, that the record lacks.
def firstMissing (members : List (Member σ)) (record : σ) : Option String :=
  (members.find? (fun m => m.required && !m.present record)).map (·.name)

section Object

-- A member from behind the opening quote of its key
def memberAt (members : List (Member σ)) (record : σ) (s : Symbols) : Result σ :=
  match stringBody s with
  | .error e => .error e
  | .ok (key, rest) =>
    match members.find? (fun m => m.name.toList == key) with
    | some m =>
      if m.present record then .error (.duplicateMember m.name)
      else
        match colon rest with
        | .error e => .error e
        | .ok (_, rest') =>
          match m.value.run rest' with
          | .error e => .error e
          | .ok (fill, rest'') => .ok (fill record, rest'')
    | none =>
      match colon rest with
      | .error e => .error e
      | .ok (_, rest') =>
        match skipValue rest' with
        | .error e => .error e
        | .ok (_, rest'') => .ok (record, rest'')

theorem memberAt_length {members : List (Member σ)} {record record' : σ} {s rest : Symbols}
    (h : memberAt members record s = .ok (record', rest)) : rest.length < s.length := by
  unfold memberAt at h
  split at h
  · simp at h
  · rename_i hk
    have h₁ := stringBody_length hk
    split at h
    · split at h
      · simp at h
      · split at h
        · simp at h
        · rename_i hc
          have h₂ := colon_length hc
          split at h
          · simp at h
          · rename_i hv
            have h₃ := Reader.shrinks _ hv
            simp only [Except.ok.injEq, Prod.mk.injEq] at h
            rw [← h.2]
            omega
    · split at h
      · simp at h
      · rename_i hc
        have h₂ := colon_length hc
        split at h
        · simp at h
        · rename_i hv
          have h₃ := skipValue_length_le hv
          simp only [Except.ok.injEq, Prod.mk.injEq] at h
          rw [← h.2]
          omega

-- Behind a member: `true` at the opening quote of the next key, already taken
def afterMember (s : Symbols) : Result Bool :=
  match skipSpace s with
  | [] => .error .truncated
  | some '\x7d' :: rest => .ok (false, rest)
  | some ',' :: rest =>
    match skipSpace rest with
    | [] => .error .truncated
    | some '"' :: rest' => .ok (true, rest')
    | _ => .error .malformed
  | _ => .error .malformed

theorem afterMember_length {s rest : Symbols} {more : Bool}
    (h : afterMember s = .ok (more, rest)) : rest.length < s.length := by
  have hs := skipSpace_length_le s
  unfold afterMember at h
  split at h
  · simp at h
  · rename_i hq
    rw [hq] at hs
    simp only [Except.ok.injEq, Prod.mk.injEq] at h
    rw [← h.2]
    simp only [List.length_cons] at hs
    omega
  · rename_i r hq
    rw [hq] at hs
    have hr := skipSpace_length_le r
    simp only [List.length_cons] at hs
    split at h
    · simp at h
    · rename_i hr'
      rw [hr'] at hr
      simp only [List.length_cons] at hr
      simp only [Except.ok.injEq, Prod.mk.injEq] at h
      rw [← h.2]
      omega
    · simp at h
  · simp at h

-- The end of an object
def finish (members : List (Member σ)) (record : σ) (rest : Symbols) : Result σ :=
  match firstMissing members record with
  | some name => .error (.missingMember name)
  | none => .ok (record, rest)

-- Members from behind the opening quote of a key to the end of the object
def membersFrom (members : List (Member σ)) (record : σ) (s : Symbols) : Result σ :=
  match h : memberAt members record s with
  | .error e => .error e
  | .ok (record', rest) =>
    match h' : afterMember rest with
    | .error e => .error e
    | .ok (false, rest') => finish members record' rest'
    | .ok (true, rest') =>
      have : rest'.length < s.length := Nat.lt_trans (afterMember_length h') (memberAt_length h)
      membersFrom members record' rest'
termination_by s.length

-- A record written as an object, from behind the opening brace.
def object? (members : List (Member σ)) (empty : σ) (s : Symbols) : Result σ :=
  match skipSpace s with
  | [] => .error .truncated
  | some '\x7d' :: rest => finish members empty rest
  | some '"' :: rest => membersFrom members empty rest
  | _ => .error .malformed

end Object

section Array

-- The end of an array behind its last declared item
def arrayEnd (s : Symbols) : Result Unit :=
  match skipSpace s with
  | [] => .error .truncated
  | some ']' :: rest => .ok ((), rest)
  | _ => .error .malformed

-- A record written as an array, from behind the opening bracket. It may end early where every
-- member still to come may be absent.
def elements (members : List (Member σ)) (first : Bool) (record : σ) (s : Symbols) : Result σ :=
  match members with
  | [] =>
    match arrayEnd s with
    | .error e => .error e
    | .ok (_, rest) => .ok (record, rest)
  | m :: ms =>
    let item (s : Symbols) : Result σ :=
      match m.value.run s with
      | .error e => .error e
      | .ok (fill, rest) => elements ms false (fill record) rest
    match skipSpace s with
    | [] => .error .truncated
    | some ']' :: rest =>
      if (m :: ms).any (·.required) then .error .wrongShape else .ok (record, rest)
    | a :: rest =>
      if first then item (a :: rest)
      else if a = some ',' then
        match skipSpace rest with
        | [] => .error .truncated
        | some ']' :: _ => .error .malformed
        | rest' => item rest'
      else .error .malformed

end Array

def recordValue (members : List (Member σ)) (empty : σ) (s : Symbols) : Result σ :=
  match skipSpace s with
  | some '[' :: rest => elements members true empty rest
  | some '\x7b' :: rest => object? members empty rest
  | s' => .error (refuse s')

-- Reads a whole text as one record.
def readRecord (members : List (Member σ)) (empty : σ) (s : Symbols) : Except Fault σ :=
  match recordValue members empty s with
  | .error e => .error e
  | .ok (record, rest) => if (skipSpace rest).isEmpty then .ok record else .error .malformed

end ChallengeLogin.Json
