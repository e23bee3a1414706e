import ChallengeLogin.Proofs.CommandLine.Flags

namespace ChallengeLogin.CommandLine

open ChallengeLogin.Log (Level)

section Counting

variable {environment : Environment} {words : List String} {before after givens : List Given}
  {command : Command} {invocation : Invocation}

-- A command line that is accepted once its flags are left out
def AcceptedUnflagged (environment : Environment) (before : List Given) (command : Command)
    (after : List Given) : Prop :=
  ∃ plain invocation, Line program plain (unflagged before) command (unflagged after) ∧
    program.parse environment plain = .ok invocation

theorem flags_unflagged (givens : List Given) : flags (unflagged givens) = 0 := by
  simp [flags, unflagged, List.count_eq_zero]

theorem verbosity_mem_options : ∀ command ∈ program.commands, .verbosity ∈ command.options := by
  decide

theorem verbosity_not_mem_required :
    ∀ command ∈ program.commands, .verbosity ∉ command.required := by
  decide

theorem giveAll_of_unflagged {next : Values} (h : Values.giveAll {} (unflagged givens) = .ok next) :
    Values.giveAll {} givens =
      if flags givens ≤ 4 then .ok (next.withVerbosity (next.verbosity.flagged (flags givens)))
      else .error tooVerbose := by
  have hnext := (verbosity_of_giveAll h).2
  rw [flags_unflagged] at hnext
  have hflagged := giveAll_flagged (Nat.zero_le 4) h
  rw [Nat.zero_add] at hflagged
  rw [hnext]
  exact hflagged

-- Flags that come to an accepted command line are accepted or refused by their numbers alone.
theorem parse_of_acceptedUnflagged (hline : Line program words before command after)
    (hplain : AcceptedUnflagged environment before command after) :
    ∃ invocation, program.parse environment words =
      if flags before ≤ 4 ∧ flags after ≤ 4 then .ok invocation else .error tooVerbose := by
  obtain ⟨plain, accepted, hplain, hparse⟩ := hplain
  rw [regular_program.parse_of_line hplain] at hparse
  obtain ⟨outer, houter, hparse⟩ := exists_of_bind_eq_ok hparse
  obtain ⟨inner, hinner, hparse⟩ := exists_of_bind_eq_ok hparse
  obtain ⟨filled, hfilled, hparse⟩ := exists_of_bind_eq_ok hparse
  obtain ⟨completed, hcompleted, hparse⟩ := exists_of_bind_eq_ok hparse
  obtain ⟨filledOuter, hfilledOuter, -⟩ := exists_of_bind_eq_ok hparse
  refine ⟨invoke command (filled.withVerbosity (filled.verbosity.flagged (flags after)))
    (filledOuter.withVerbosity (filledOuter.verbosity.flagged (flags before))), ?_⟩
  rw [regular_program.parse_of_line hline, giveAll_of_unflagged houter,
    giveAll_of_unflagged hinner]
  by_cases hbefore : flags before ≤ 4
  · by_cases hafter : flags after ≤ 4
    · rw [if_pos hbefore, if_pos hafter, if_pos ⟨hbefore, hafter⟩]
      show (fill environment command.options _ >>= _) = _
      rw [fill_flagged (flags after) hfilled]
      show (command.complete _ >>= fun _ => fill environment program.options _ >>= _) = _
      rw [complete_withVerbosity (verbosity_not_mem_required command hplain.mem) hcompleted,
        fill_flagged (flags before) hfilledOuter]
      rfl
    · have hrefused : ¬(flags before ≤ 4 ∧ flags after ≤ 4) := fun h => hafter h.2
      rw [if_pos hbefore, if_neg hafter, if_neg hrefused]
      rfl
  · have hrefused : ¬(flags before ≤ 4 ∧ flags after ≤ 4) := fun h => hbefore h.1
    rw [if_neg hbefore, if_neg hrefused]
    rfl

-- Flags and the environment decide the verbosity of the command and that of the program apart.
theorem verbosity_of_line (hline : Line program words before command after)
    (h : program.parse environment words = .ok invocation) :
    ∃ inner outer, Verbosity.Filled environment (.flagged {} (flags after)) inner ∧
      Verbosity.Filled environment (.flagged {} (flags before)) outer ∧
      invocation.verbosity = (inner.within outer).steps := by
  rw [regular_program.parse_of_line hline] at h
  obtain ⟨outer, houter, h⟩ := exists_of_bind_eq_ok h
  obtain ⟨inner, hinner, h⟩ := exists_of_bind_eq_ok h
  obtain ⟨filled, hfilled, h⟩ := exists_of_bind_eq_ok h
  obtain ⟨completed, hcompleted, h⟩ := exists_of_bind_eq_ok h
  obtain ⟨filledOuter, hfilledOuter, h⟩ := exists_of_bind_eq_ok h
  cases h
  cases eq_of_complete hcompleted
  have hbelow := verbosity_of_fill hfilled
  have habove := verbosity_of_fill hfilledOuter
  rw [if_pos (verbosity_mem_options command hline.mem), (verbosity_of_giveAll hinner).2] at hbelow
  rw [if_pos (by decide), (verbosity_of_giveAll houter).2] at habove
  exact ⟨_, _, hbelow, habove, max_self _⟩

-- The verbosity that the environment has in place of flags
inductive EnvironmentSteps (environment : Environment) : Nat → Prop
  | unset (h : environment.lookup levelVariable = none) : EnvironmentSteps environment 0
  | set {text : String} {steps : Nat} (htext : environment.lookup levelVariable = some text)
      (hsteps : stepsOf text = .ok steps) : EnvironmentSteps environment steps

theorem Verbosity.Filled.flagged_succ {n : Nat} {verbosity : Verbosity}
    (h : Filled environment (.flagged {} (n + 1)) verbosity) : verbosity = ⟨.words, n + 1⟩ := by
  cases h with
  | kept => rfl
  | set h => cases h

theorem Verbosity.Filled.flagged_zero {verbosity : Verbosity}
    (h : Filled environment (.flagged {} 0) verbosity) :
    verbosity.source.rank < Source.words.rank ∧ EnvironmentSteps environment verbosity.steps := by
  cases h with
  | kept h =>
    rcases h with h | h
    · exact absurd rfl h
    · exact ⟨Nat.zero_lt_two, .unset h⟩
  | set _ htext hsteps => exact ⟨Nat.one_lt_two, .set htext hsteps⟩

theorem Source.rank_le (source : Source) : source.rank ≤ Source.words.rank := by
  cases source <;> decide

-- The verbosity is that of the flags behind the command, else of those in front of it, else that
-- of the environment.
theorem verbosity_cases (hline : Line program words before command after)
    (h : program.parse environment words = .ok invocation) :
    (0 < flags after → invocation.verbosity = flags after) ∧
      (flags after = 0 → 0 < flags before → invocation.verbosity = flags before) ∧
      (flags after = 0 → flags before = 0 →
        EnvironmentSteps environment invocation.verbosity) := by
  obtain ⟨inner, outer, hinner, houter, hverbosity⟩ := verbosity_of_line hline h
  rw [hverbosity, Verbosity.within]
  cases hafter : flags after with
  | succ n =>
    rw [hafter] at hinner
    have hwords := hinner.flagged_succ
    rw [if_neg (by rw [hwords]; exact Nat.not_lt.mpr outer.source.rank_le), hwords]
    exact ⟨fun _ => rfl, nofun, nofun⟩
  | zero =>
    rw [hafter] at hinner
    obtain ⟨hrank, hsteps⟩ := hinner.flagged_zero
    cases hbefore : flags before with
    | succ n =>
      rw [hbefore] at houter
      have hwords := houter.flagged_succ
      rw [if_pos (by rw [hwords]; exact hrank), hwords]
      exact ⟨nofun, fun _ _ => rfl, nofun⟩
    | zero =>
      rw [hbefore] at houter
      refine ⟨nofun, nofun, fun _ _ => ?_⟩
      split_ifs
      · exact houter.flagged_zero.2
      · exact hsteps

end Counting

section Samples

variable {before after : List Given}

-- Flags share a dash in any number.
theorem letters_flags {options : List Opt} (hflag : .verbosity ∈ options) :
    ∀ n, Letters options (.replicate n 'v') (.replicate n .flag) none
  | 0 => .nil
  | n + 1 => .bare hflag rfl _ (letters_flags hflag n)

def keyGiven : Given :=
  .valued .secretKey rfl "01"

theorem gives_key {words left : List String} {givens : List Given}
    (hrest : Gives pubkeyCommand.options none words givens left) :
    Gives pubkeyCommand.options none ("--secret-key" :: "01" :: words) (keyGiven :: givens) left :=
  have hkey : .secretKey ∈ pubkeyCommand.options := by decide
  .longOwed hkey rfl (.value rfl (by decide) hrest)

theorem gives_flags (n : Nat) :
    Gives pubkeyCommand.options none [String.ofList ('-' :: .replicate (n + 1) 'v')]
      (.replicate (n + 1) .flag) [] := by
  have hletters : Letters pubkeyCommand.options (.replicate (n + 1) 'v') _ none :=
    letters_flags (by decide) (n + 1)
  have hgives := Gives.letters hletters nofun (.nothing [])
  rwa [List.append_nil] at hgives

theorem line_key : Line program ["pubkey", "--secret-key", "01"] [] pubkeyCommand [keyGiven] :=
  ⟨by decide, _, .nothing _, .inl (gives_key (.nothing []))⟩

-- The public key of a key that is given is asked for without anything else.
theorem accepted_key (hbefore : unflagged before = []) (hafter : unflagged after = [keyGiven]) :
    AcceptedUnflagged [] before pubkeyCommand after := by
  rw [AcceptedUnflagged, hbefore, hafter]
  exact ⟨_, ⟨some "pubkey", { secretKey := some "01" }, 0⟩, line_key, by decide⟩

-- A key and three flags, two of them behind one dash with the letter of the key
def clusteredWords : List String :=
  ["pubkey", "-vvk", "01", "--verbose"]

def clusteredGivens : List Given :=
  [.flag, .flag, keyGiven, .flag]

theorem line_clustered : Line program clusteredWords [] pubkeyCommand clusteredGivens := by
  have hflag : .verbosity ∈ pubkeyCommand.options := by decide
  have hkey : .secretKey ∈ pubkeyCommand.options := by decide
  have hletters : Letters pubkeyCommand.options ['v', 'v', 'k'] [.flag, .flag] (some .secretKey) :=
    .bare hflag rfl _ (.bare hflag rfl _ (.owed hkey rfl rfl))
  exact ⟨by decide, _, .nothing _, .inl (.letters hletters nofun
    (.value rfl (by decide) (.long hflag _ (.nothing []))))⟩

end Samples

section Levels

variable {environment : Environment} {words : List String} {after : List Given}
  {command : Command}

-- The levels that numbers of steps stand for
def levels : List Level :=
  [.error, .warn, .info, .debug, .trace]

theorem EnvironmentSteps.eq_zero {steps : Nat} (h : EnvironmentSteps environment steps)
    (hunset : environment.lookup levelVariable = none) : steps = 0 := by
  cases h with
  | unset => rfl
  | set htext =>
    rw [htext] at hunset
    cases hunset

-- Without the variable there are as many steps as flags behind the command.
theorem verbosity_of_unset {invocation : Invocation}
    (hunset : environment.lookup levelVariable = none)
    (hline : Line program words [] command after)
    (h : program.parse environment words = .ok invocation) :
    invocation.verbosity = flags after := by
  obtain ⟨hflags, -, hnone⟩ := verbosity_cases hline h
  rcases Nat.eq_zero_or_pos (flags after) with hzero | hpos
  · rw [(hnone hzero rfl).eq_zero hunset, hzero]
  · exact hflags hpos

theorem level_of_steps : ∀ steps ≤ 4, levels[steps]? = some (Level.ofCount steps) := by
  decide

-- Behind a command, flags come to the level of their number up to the last level, and no further:
-- one more flag is refused, though every greater number has the last level.
theorem level_of_flags_iff (hline : Line program words [] command after)
    (hplain : AcceptedUnflagged environment [] command after)
    (hunset : environment.lookup levelVariable = none) :
    ((∃ invocation, program.parse environment words = .ok invocation ∧
        levels[min (flags after) 4]? = some (Level.ofCount invocation.verbosity)) ↔
      flags after ≤ 4) ∧
    (4 < flags after → program.parse environment words = .error tooVerbose) := by
  obtain ⟨invocation, hparse⟩ := parse_of_acceptedUnflagged hline hplain
  have hbefore : flags [] ≤ 4 := Nat.zero_le 4
  by_cases hafter : flags after ≤ 4
  · rw [if_pos ⟨hbefore, hafter⟩] at hparse
    have hverbosity := verbosity_of_unset hunset hline hparse
    refine ⟨iff_of_true ⟨invocation, hparse, ?_⟩ hafter, fun h => absurd hafter (by omega)⟩
    rw [hverbosity, Nat.min_eq_left hafter]
    exact level_of_steps _ hafter
  · have hrefused : ¬(flags [] ≤ 4 ∧ flags after ≤ 4) := fun h => hafter h.2
    rw [if_neg hrefused] at hparse
    refine ⟨iff_of_false ?_ hafter, fun _ => hparse⟩
    rintro ⟨accepted, haccepted, -⟩
    rw [hparse] at haccepted
    cases haccepted

theorem level_of_flags_clustered :
    Line program clusteredWords [] pubkeyCommand clusteredGivens ∧
      AcceptedUnflagged [] [] pubkeyCommand clusteredGivens ∧ flags clusteredGivens = 3 ∧
      ∃ invocation, program.parse [] clusteredWords = .ok invocation ∧
        Level.ofCount invocation.verbosity = .debug := by
  have haccepted : AcceptedUnflagged [] [] pubkeyCommand clusteredGivens :=
    accepted_key rfl (by decide)
  have hflags : flags clusteredGivens = 3 := by decide
  obtain ⟨invocation, hparse, hlevel⟩ :=
    (level_of_flags_iff line_clustered haccepted rfl).1.mpr (by rw [hflags]; decide)
  rw [hflags] at hlevel
  exact ⟨line_clustered, haccepted, hflags, invocation, hparse, (Option.some.inj hlevel).symm⟩

-- Five flags behind one dash make an accepted command line one that is refused.
theorem refused_at_fifth_flag :
    ∃ words after, Line program words [] pubkeyCommand after ∧
      AcceptedUnflagged [] [] pubkeyCommand after ∧ flags after = 5 ∧
      ¬∃ invocation, program.parse [] words = .ok invocation := by
  refine ⟨["pubkey", "--secret-key", "01", "-vvvvv"], keyGiven :: .replicate 5 .flag,
    ⟨by decide, _, .nothing _, .inl (gives_key (gives_flags 4))⟩,
    accepted_key rfl (by decide), by decide, ?_⟩
  have hparse : program.parse [] ["pubkey", "--secret-key", "01", "-vvvvv"] =
      .error tooVerbose := by decide
  rw [hparse]
  rintro ⟨_, ⟨⟩⟩

end Levels

section Weighing

variable {before after : List Given} {command : Command}

-- The verbosity is the greater one of two numbers of flags, and without flags that of the
-- environment.
def TakesGreater (environment : Environment) (before after verbosity : Nat) : Prop :=
  (0 < before + after → verbosity = max before after) ∧
    (before + after = 0 → EnvironmentSteps environment verbosity)

-- Every accepted command line has its flags counted, and up to the last level they make none
-- refused. The greater count decides exactly if it is not the one in front of a smaller one: any
-- flag behind the command puts those in front of it out of use.
theorem greater_count_decides_iff (environment : Environment) (words : List String) :
    (∀ invocation, program.parse environment words = .ok invocation →
      ∃ before command after, Line program words before command after) ∧
    ∀ before command after, Line program words before command after →
      (AcceptedUnflagged environment before command after → flags before ≤ 4 → flags after ≤ 4 →
        ∃ invocation, program.parse environment words = .ok invocation) ∧
      ∀ invocation, program.parse environment words = .ok invocation →
        (TakesGreater environment (flags before) (flags after) invocation.verbosity ↔
          flags after = 0 ∨ flags before ≤ flags after) ∧
        (0 < flags after → invocation.verbosity = flags after) := by
  refine ⟨fun _ => exists_line_of_parse rfl, fun before command after hline => ⟨?_, ?_⟩⟩
  · intro hplain hbefore hafter
    obtain ⟨invocation, hparse⟩ := parse_of_acceptedUnflagged hline hplain
    rw [if_pos ⟨hbefore, hafter⟩] at hparse
    exact ⟨invocation, hparse⟩
  · intro invocation hparse
    obtain ⟨hbehind, hfront, hnone⟩ := verbosity_cases hline hparse
    refine ⟨⟨fun htakes => ?_, fun hcounts => ⟨fun hsome => ?_, fun hzero => ?_⟩⟩, hbehind⟩
    · by_contra hcounts
      have hgreater := htakes.1 (by omega)
      have hafter := hbehind (by omega)
      omega
    · rcases Nat.eq_zero_or_pos (flags after) with hzero | hpos
      · rw [hfront hzero (by omega), hzero, Nat.max_zero]
      · have hverbosity := hbehind hpos
        omega
    · exact hnone (by omega) (by omega)

theorem greater_count_decides_behind :
    Line program ["-v", "pubkey", "--secret-key", "01", "-vv"] [.flag] pubkeyCommand
        [keyGiven, .flag, .flag] ∧
      ∃ invocation,
        program.parse [] ["-v", "pubkey", "--secret-key", "01", "-vv"] = .ok invocation ∧
        TakesGreater [] 1 2 invocation.verbosity := by
  have hletters : Letters program.options ['v'] [.flag] none := letters_flags (by decide) 1
  have hline : Line program ["-v", "pubkey", "--secret-key", "01", "-vv"] [.flag] pubkeyCommand
      [keyGiven, .flag, .flag] :=
    ⟨by decide, _, .letters hletters nofun (.nothing _), .inl (gives_key (gives_flags 1))⟩
  obtain ⟨haccepts, htakes⟩ := (greater_count_decides_iff [] _).2 _ _ _ hline
  obtain ⟨invocation, hparse⟩ :=
    haccepts (accepted_key (by decide) (by decide)) (by decide) (by decide)
  exact ⟨hline, invocation, hparse, (htakes invocation hparse).1.mpr (.inr (by decide))⟩

-- One flag behind the command puts two in front of it out of use.
theorem lesser_count_decides :
    ∃ words before after invocation, Line program words before pubkeyCommand after ∧
      program.parse [] words = .ok invocation ∧ flags before = 2 ∧ flags after = 1 ∧
      ¬TakesGreater [] (flags before) (flags after) invocation.verbosity := by
  have hletters : Letters program.options ['v', 'v'] [.flag, .flag] none :=
    letters_flags (by decide) 2
  have hline : Line program ["-vv", "pubkey", "--secret-key", "01", "-v"] [.flag, .flag]
      pubkeyCommand [keyGiven, .flag] :=
    ⟨by decide, _, .letters hletters nofun (.nothing _), .inl (gives_key (gives_flags 0))⟩
  refine ⟨_, _, _, ⟨some "pubkey", { secretKey := some "01", verbosity := ⟨.words, 1⟩ }, 1⟩, hline,
    by decide, by decide, by decide, fun htakes => ?_⟩
  exact absurd (htakes.1 (by decide)) (by decide)

end Weighing

end ChallengeLogin.CommandLine
