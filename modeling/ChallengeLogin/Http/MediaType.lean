import ChallengeLogin.Http.Message

namespace ChallengeLogin.Http.MediaType

open ChallengeLogin.Text

def isToken (c : Char) : Bool :=
  let n := c.toNat
  (48 ≤ n && n ≤ 57) || (65 ≤ n && n ≤ 90) || (97 ≤ n && n ≤ 122) || n == 0x60 ||
    ['!', '#', '$', '%', '&', '\'', '*', '+', '-', '.', '^', '_', '|', '~'].contains c

def isQuotable (c : Char) : Bool :=
  0x20 ≤ c.toNat && c.toNat != 0x7F

-- A parameter value, and what stands behind the semicolon that ends it
def value? (cs : List Char) : Option (List Char × List Char) :=
  match cs with
  | '"' :: c :: rest =>
    -- the first character between quotes may itself be a quote
    if !isQuotable c then none
    else
      match rest.dropWhile (fun c => isQuotable c && c != '"') with
      | '"' :: behind =>
        match behind.dropWhile (· == ' ') with
        | [] => some (c :: rest.takeWhile (· != '"'), [])
        | ';' :: next => some (c :: rest.takeWhile (· != '"'), next)
        | _ => none
      | _ => none
  | cs =>
    let token := cs.takeWhile isToken
    match cs.dropWhile isToken with
    | [] => some (token, [])
    | ';' :: next => if token.isEmpty then none else some (token, next)
    | _ => none

theorem value?_length_le {cs v rest : List Char} (h : value? cs = some (v, rest)) :
    rest.length ≤ cs.length := by
  unfold value? at h
  split at h
  · rename_i c r
    split at h
    · simp at h
    · have h₁ := (List.dropWhile_sublist (fun c => isQuotable c && c != '"') (l := r)).length_le
      split at h
      · rename_i behind hb
        rw [hb] at h₁
        have h₂ := (List.dropWhile_sublist (· == ' ') (l := behind)).length_le
        split at h
        · simp only [Option.some.injEq, Prod.mk.injEq] at h
          simp [← h.2]
        · rename_i hn
          rw [hn] at h₂
          simp only [Option.some.injEq, Prod.mk.injEq] at h
          rw [← h.2]
          simp only [List.length_cons] at *
          omega
        · simp at h
      · simp at h
  · have h₁ := (List.dropWhile_sublist isToken (l := cs)).length_le
    simp only at h
    split at h
    · simp only [Option.some.injEq, Prod.mk.injEq] at h
      simp [← h.2]
    · rename_i hn
      rw [hn] at h₁
      split at h
      · simp at h
      · simp only [Option.some.injEq, Prod.mk.injEq] at h
        rw [← h.2]
        simp only [List.length_cons] at h₁
        omega
    · simp at h

-- The parameters behind the first semicolon, names in lower case.
def parameters? (cs : List Char) : Option (List (List Char × List Char)) :=
  match cs with
  | [] => some []
  | ' ' :: rest => parameters? rest
  | c :: rest =>
    let name := (c :: rest).takeWhile isToken
    match h : (c :: rest).dropWhile isToken with
    | '=' :: tail =>
      if name.isEmpty then none
      else
        match h' : value? tail with
        | none => none
        | some (value, next) =>
          have : next.length < (c :: rest).length := by
            have h₁ := (List.dropWhile_sublist isToken (l := c :: rest)).length_le
            have h₂ := value?_length_le h'
            rw [h] at h₁
            simp only [List.length_cons] at h₁ ⊢
            omega
          (parameters? next).map ((name.map Charset.lower, value) :: ·)
    | _ => none
termination_by cs.length
decreasing_by all_goals (simp only [List.length_cons] at *; omega)

-- The parameters of a media type; none where it is malformed.
def ofText? (cs : List Char) : Option (List (List Char × List Char)) :=
  if cs = ['*', '/', '*'] then some []
  else
    match cs.dropWhile isToken with
    | '/' :: rest =>
      if (cs.takeWhile isToken).isEmpty then none
      else
        match rest.dropWhile isToken with
        | [] => some []
        | ';' :: tail => if (rest.takeWhile isToken).isEmpty then none else parameters? tail
        | _ => none
    | _ => none

-- The charset that the headers of a reply name; UTF-8 unless they name a known one.
def charsetOf (headers : List Header) : Charset :=
  let label := do
    let text ← visibleText? (← valueOf? "content-type" headers)
    (← ofText? text.toList).lookup ['c', 'h', 'a', 'r', 's', 'e', 't']
  (label.bind Charset.ofLabel?).getD .utf8

end ChallengeLogin.Http.MediaType

namespace ChallengeLogin.Http

open ChallengeLogin.Text

-- The body of a reply as text.
def Response.text [Charset.Decoders] (response : Response) : String :=
  String.ofList ((MediaType.charsetOf response.headers).decodeMarked response.body)

end ChallengeLogin.Http
