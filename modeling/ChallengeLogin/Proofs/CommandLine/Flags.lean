import ChallengeLogin.Proofs.CommandLine.Reading

namespace ChallengeLogin.CommandLine

section Flags

variable {given : Given} {givens : List Given}

-- One use of the option that counts
def Given.flag : Given :=
  .bare .verbosity (by decide)

def flags (givens : List Given) : Nat :=
  givens.count .flag

def unflagged (givens : List Given) : List Given :=
  givens.filter (· ≠ .flag)

theorem opt_ne_of_ne_flag (h : given ≠ .flag) : given.opt ≠ .verbosity := by
  rintro hopt
  obtain ⟨opt, value, hfits⟩ := given
  subst hopt
  cases value with
  | none => exact h rfl
  | some text => cases hfits

theorem flags_cons_flag : flags (.flag :: givens) = flags givens + 1 :=
  List.count_cons_self

theorem flags_cons_of_ne (h : given ≠ .flag) : flags (given :: givens) = flags givens :=
  List.count_cons_of_ne h

theorem unflagged_cons_flag : unflagged (.flag :: givens) = unflagged givens :=
  List.filter_cons_of_neg (by simp)

theorem unflagged_cons_of_ne (h : given ≠ .flag) :
    unflagged (given :: givens) = given :: unflagged givens :=
  List.filter_cons_of_pos (by simpa using h)

end Flags

section Setting

variable {values next : Values} {verbosity : Verbosity} {source : Source} {opt : Opt}
  {text : String} {given : Given} {givens : List Given}

def Values.withVerbosity (values : Values) (verbosity : Verbosity) : Values :=
  { values with verbosity }

-- The verbosity once flags are counted, if there are any
def Verbosity.flagged (verbosity : Verbosity) : Nat → Verbosity
  | 0 => verbosity
  | n + 1 => ⟨.words, n + 1⟩

-- How a count beyond the last level is refused
def tooVerbose : Fault :=
  .badValue "--verbose..." "5" badLevel

-- The other options are set no matter what the verbosity is.
theorem has_withVerbosity (hopt : opt ≠ .verbosity) :
    (values.withVerbosity verbosity).has opt = values.has opt := by
  cases opt <;> first | rfl | exact absurd rfl hopt

theorem put_withVerbosity (hopt : opt ≠ .verbosity) :
    (values.withVerbosity verbosity).put source opt text =
      (values.put source opt text).map (·.withVerbosity verbosity) := by
  cases opt with
  | url =>
    simp only [Values.put]
    cases siteOf text <;> rfl
  | verbosity => exact absurd rfl hopt
  | _ => rfl

-- What comes of an option that is given without a value
theorem give_of_none (h : given.value = none) :
    values.give given = match given.opt.use with
      | .shown => .error (if given.opt = .version then .versionShown else .helpShown)
      | .counted => values.put .words given.opt (toString (values.verbosity.steps + 1))
      | .bare | .valued =>
        if values.has given.opt then .error (.givenTwice given.opt.label)
        else values.put .words given.opt "true" := by
  have hset (put : Except Fault Values) :
      (put >>= fun values => .ok (State.ofValues values)).map (·.values) = put := by
    cases put <;> rfl
  simp only [Values.give, h]
  show Except.map _ (match given.opt.use with | .shown => _ | .counted => _ | .bare | .valued => _) = _
  split
  · rfl
  · exact hset _
  all_goals
    split
    · rfl
    · exact hset _

theorem eq_verbosity_of_counted : opt.use = .counted → opt = .verbosity := by
  cases opt <;> decide

theorem give_withVerbosity (h : given ≠ .flag) :
    (values.withVerbosity verbosity).give given =
      (values.give given).map (·.withVerbosity verbosity) := by
  have hopt := opt_ne_of_ne_flag h
  cases hvalue : given.value with
  | some text =>
    simp only [Values.give, hvalue, State.assign, has_withVerbosity hopt, put_withVerbosity hopt]
    split <;> rfl
  | none =>
    simp only [give_of_none hvalue, has_withVerbosity hopt, put_withVerbosity hopt]
    split
    · rfl
    · rename_i hcounted
      exact absurd (eq_verbosity_of_counted hcounted) hopt
    all_goals split <;> rfl

-- The count of a flag is read as a text.
theorem stepsOf_count : ∀ n ≤ 4, stepsOf (toString (n + 1)) =
    if n < 4 then .ok (n + 1) else .error badLevel := by
  decide

theorem give_flag {n : Nat} (hn : n ≤ 4) :
    (values.withVerbosity (.flagged {} n)).give .flag =
      if n < 4 then .ok (values.withVerbosity (.flagged {} (n + 1))) else .error tooVerbose := by
  have hsteps : (Verbosity.flagged {} n).steps = n := by cases n <;> rfl
  rw [give_of_none rfl]
  show Values.put _ _ .verbosity (toString ((Verbosity.flagged {} n).steps + 1)) = _
  rw [hsteps, Values.put, stepsOf_count n hn]
  split_ifs with hlast
  · rfl
  · have hfour : n = 4 := by omega
    subst hfour
    have hfault : Fault.badValue (Opt.label .verbosity) (toString (4 + 1)) badLevel = tooVerbose := by
      decide
    exact congrArg Except.error hfault

-- Flags raise the verbosity up to the last level and leave the other values as they are. By induction
-- on what is given.
theorem giveAll_flagged {n : Nat} (hn : n ≤ 4)
    (hplain : values.giveAll (unflagged givens) = .ok next) :
    (values.withVerbosity (.flagged {} n)).giveAll givens =
      if n + flags givens ≤ 4 then .ok (next.withVerbosity (.flagged {} (n + flags givens)))
      else .error tooVerbose := by
  induction givens generalizing values n with
  | nil =>
    cases hplain
    exact (if_pos hn).symm
  | cons given givens ih =>
    by_cases hflag : given = .flag
    · subst hflag
      rw [unflagged_cons_flag] at hplain
      rw [Values.giveAll_cons, give_flag hn, flags_cons_flag]
      split_ifs with hlast hall hall
      · show Values.giveAll _ _ = _
        rw [ih hlast hplain, if_pos (by omega), Nat.add_right_comm n 1, Nat.add_assoc]
      · show Values.giveAll _ _ = _
        rw [ih hlast hplain, if_neg (by omega)]
      · omega
      · rfl
    · rw [unflagged_cons_of_ne hflag, Values.giveAll_cons] at hplain
      obtain ⟨middle, hgiven, hrest⟩ := exists_of_bind_eq_ok hplain
      rw [Values.giveAll_cons, give_withVerbosity hflag, hgiven, flags_cons_of_ne hflag]
      exact ih hn hrest

-- What is accepted with its flags is accepted without them. By induction on what is given.
theorem exists_giveAll_unflagged {n : Nat} (hn : n ≤ 4)
    (h : (values.withVerbosity (.flagged {} n)).giveAll givens = .ok next) :
    ∃ plain, values.giveAll (unflagged givens) = .ok plain := by
  induction givens generalizing values n with
  | nil => exact ⟨values, rfl⟩
  | cons given givens ih =>
    rw [Values.giveAll_cons] at h
    obtain ⟨middle, hgiven, hrest⟩ := exists_of_bind_eq_ok h
    by_cases hflag : given = .flag
    · subst hflag
      rw [give_flag hn] at hgiven
      split_ifs at hgiven with hlast
      cases hgiven
      rw [unflagged_cons_flag]
      exact ih hlast hrest
    · rw [give_withVerbosity hflag] at hgiven
      obtain ⟨plain, hplain, rfl⟩ := exists_of_map_eq_ok hgiven
      rw [unflagged_cons_of_ne hflag, Values.giveAll_cons, hplain]
      exact ih hn hrest

theorem verbosity_of_giveAll (h : Values.giveAll {} givens = .ok next) :
    flags givens ≤ 4 ∧ next.verbosity = .flagged {} (flags givens) := by
  change (Values.withVerbosity {} (.flagged {} 0)).giveAll givens = .ok next at h
  obtain ⟨plain, hplain⟩ := exists_giveAll_unflagged (Nat.zero_le 4) h
  have hflagged := giveAll_flagged (Nat.zero_le 4) hplain
  rw [Nat.zero_add, h] at hflagged
  split_ifs at hflagged with hall
  cases hflagged
  exact ⟨hall, rfl⟩

end Setting

section Filling

variable {environment : Environment} {options : List Opt} {opt : Opt} {values next : Values}
  {command : Command} {verbosity raised : Verbosity}

-- The variable that stands in for flags
def levelVariable : String := "SIGAUTH_LOG_LEVEL"

-- The verbosity once the environment has been asked: flags, or the lack of the variable, leave it
-- as it is.
inductive Verbosity.Filled (environment : Environment) : Verbosity → Verbosity → Prop
  | kept {verbosity : Verbosity}
      (h : verbosity.source ≠ .implied ∨ environment.lookup levelVariable = none) :
      Filled environment verbosity verbosity
  | set {verbosity : Verbosity} {text : String} {steps : Nat} (h : verbosity.source = .implied)
      (htext : environment.lookup levelVariable = some text) (hsteps : stepsOf text = .ok steps) :
      Filled environment verbosity ⟨.environment, steps⟩

-- Asking twice is asking once.
theorem Verbosity.Filled.filled_eq {again : Verbosity} (h : Filled environment verbosity raised)
    (hagain : Filled environment raised again) : again = raised := by
  cases hagain with
  | kept => rfl
  | set himplied htext hsteps =>
    cases h with
    | kept hkept =>
      rcases hkept with hkept | hkept
      · exact absurd himplied hkept
      · rw [htext] at hkept
        cases hkept
    | set => cases himplied

theorem fill_cons (opt : Opt) (options : List Opt) (values : Values) :
    fill environment (opt :: options) values =
      fill environment [opt] values >>= fill environment options := by
  rw [fill, ← List.singleton_append, List.foldlM_append]
  rfl

theorem fill_one :
    fill environment [opt] values =
      if values.has opt then .ok values
      else match opt.envName?.bind (List.lookup · environment) with
        | none => .ok values
        | some text => values.put .environment opt text :=
  bind_pure _

theorem filled_of_fill_one (h : fill environment [.verbosity] values = .ok next) :
    Verbosity.Filled environment values.verbosity next.verbosity := by
  rw [fill_one] at h
  split_ifs at h with hhas
  · cases h
    exact .kept (.inl (of_decide_eq_true hhas))
  · have himplied : values.verbosity.source = .implied := by simpa [Values.has] using hhas
    split at h
    · rename_i hlookup
      cases h
      exact .kept (.inr hlookup)
    · rename_i text hlookup
      simp only [Values.put] at h
      split at h
      · rename_i steps hsteps
        cases h
        exact .set himplied hlookup hsteps
      · cases h

-- Where the verbosity is filled up, nothing else is.
theorem withVerbosity_of_fill_one (h : fill environment [.verbosity] values = .ok next) :
    next.withVerbosity verbosity = values.withVerbosity verbosity := by
  rw [fill_one] at h
  split_ifs at h
  · cases h
    rfl
  · split at h
    · cases h
      rfl
    · simp only [Values.put] at h
      split at h <;> cases h
      rfl

theorem fill_one_withVerbosity (hopt : opt ≠ .verbosity) :
    fill environment [opt] (values.withVerbosity verbosity) =
      (fill environment [opt] values).map (·.withVerbosity verbosity) := by
  simp only [fill_one, has_withVerbosity hopt, put_withVerbosity hopt]
  split
  · rfl
  · split <;> rfl

theorem verbosity_of_fill_one (hopt : opt ≠ .verbosity)
    (h : fill environment [opt] values = .ok next) : next.verbosity = values.verbosity := by
  have hself : values.withVerbosity values.verbosity = values := rfl
  rw [← hself, fill_one_withVerbosity hopt] at h
  obtain ⟨_, -, rfl⟩ := exists_of_map_eq_ok h
  rfl

-- By induction on the options; only the one that counts asks for the verbosity.
theorem verbosity_of_fill (h : fill environment options values = .ok next) :
    if .verbosity ∈ options then Verbosity.Filled environment values.verbosity next.verbosity
    else next.verbosity = values.verbosity := by
  induction options generalizing values with
  | nil =>
    cases h
    exact rfl
  | cons opt options ih =>
    rw [fill_cons] at h
    obtain ⟨middle, hmiddle, hrest⟩ := exists_of_bind_eq_ok h
    have hnext := ih hrest
    by_cases hopt : opt = .verbosity
    · subst hopt
      have hfilled := filled_of_fill_one hmiddle
      rw [if_pos List.mem_cons_self]
      split_ifs at hnext
      · rwa [hfilled.filled_eq hnext]
      · rwa [hnext]
    · have hmem : .verbosity ∈ opt :: options ↔ .verbosity ∈ options := by
        simp [Ne.symm hopt]
      simp only [hmem, ← verbosity_of_fill_one hopt hmiddle]
      exact hnext

-- Flags keep the environment from being asked for the verbosity, and change nothing else.
theorem fill_flagged (n : Nat) (h : fill environment options values = .ok next) :
    fill environment options (values.withVerbosity (values.verbosity.flagged n)) =
      .ok (next.withVerbosity (next.verbosity.flagged n)) := by
  cases n with
  | zero => exact h
  | succ n =>
    show fill environment options (values.withVerbosity ⟨.words, n + 1⟩) =
      .ok (next.withVerbosity ⟨.words, n + 1⟩)
    induction options generalizing values with
    | nil =>
      cases h
      rfl
    | cons opt options ih =>
      rw [fill_cons] at h ⊢
      obtain ⟨middle, hmiddle, hrest⟩ := exists_of_bind_eq_ok h
      have hflagged : fill environment [opt] (values.withVerbosity ⟨.words, n + 1⟩) =
          .ok (middle.withVerbosity ⟨.words, n + 1⟩) := by
        by_cases hopt : opt = .verbosity
        · subst hopt
          rw [withVerbosity_of_fill_one hmiddle, fill_one]
          rfl
        · rw [fill_one_withVerbosity hopt, hmiddle]
          rfl
      rw [hflagged]
      exact ih hrest

theorem eq_of_complete (h : command.complete values = .ok next) : next = values := by
  unfold Command.complete at h
  split at h <;> cases h
  rfl

theorem complete_withVerbosity (hrequired : .verbosity ∉ command.required)
    (h : command.complete values = .ok next) :
    command.complete (values.withVerbosity verbosity) = .ok (values.withVerbosity verbosity) := by
  have hsame : (command.required.filter fun opt => !(values.withVerbosity verbosity).has opt) =
      command.required.filter fun opt => !values.has opt := by
    refine List.filter_congr fun opt hmem => ?_
    rw [has_withVerbosity fun hopt => hrequired (hopt ▸ hmem)]
  unfold Command.complete at h ⊢
  rw [hsame]
  split at h
  · rfl
  · cases h

end Filling

end ChallengeLogin.CommandLine
