import ChallengeLogin.Proofs.CommandLine.Texts
import ChallengeLogin.Proofs.CommandLine.Verbosity

namespace ChallengeLogin.CommandLine

section Setting

variable {environment : Environment} {options : List Opt} {givens : List Given} {given : Given}
  {values next : Values} {opt : Opt} {text : String}

-- The text of an option: the one that is given for it, else that of its variable
def textOf (environment : Environment) (givens : List Given) (opt : Opt) : Option String :=
  (textIn givens opt).or (inherited environment opt)

-- What is given shows nothing, gives nothing twice, and has flags up to the last level. Where there
-- are no flags, their variable must be a level.
structure Orderly (environment : Environment) (givens : List Given) : Prop where
  unshown : ∀ given ∈ givens, given.opt.use ≠ .shown
  once : ((unflagged givens).map (·.opt)).Nodup
  counted : flags givens ≤ 4
  leveled : flags givens = 0 →
    ∀ text, environment.lookup levelVariable = some text → Opt.verbosity.Takes text

-- What is given, filled up from the environment
def filled (environment : Environment) (options : List Opt) (givens : List Given) :
    Except Fault Values :=
  Values.giveAll {} givens >>= fill environment options

theorem mem_unflagged_iff : given ∈ unflagged givens ↔ given ∈ givens ∧ given ≠ .flag := by
  simp [unflagged]

theorem mem_unflagged (hmem : given ∈ givens) (hopt : given.opt ≠ .verbosity) :
    given ∈ unflagged givens := by
  refine mem_unflagged_iff.mpr ⟨hmem, ?_⟩
  rintro rfl
  exact hopt rfl

theorem takes_of_ne (hurl : opt ≠ .url) (hopt : opt ≠ .verbosity) : opt.Takes text := by
  cases opt with
  | url => exact absurd rfl hurl
  | verbosity => exact absurd rfl hopt
  | _ => trivial

-- The text of an option that is given once is the one that it is given with. By induction on what is
-- given.
theorem textIn_of_mem (honce : ((unflagged givens).map (·.opt)).Nodup)
    (hmem : given ∈ unflagged givens) : textIn givens given.opt = some given.text := by
  induction givens with
  | nil => cases hmem
  | cons first givens ih =>
    by_cases hflag : first = .flag
    · subst hflag
      rw [unflagged_cons_flag] at honce hmem
      have hopt := opt_ne_of_ne_flag (mem_unflagged_iff.mp hmem).2
      rw [textIn_cons_of_ne (Ne.symm hopt)]
      exact ih honce hmem
    · rw [unflagged_cons_of_ne hflag] at honce hmem
      rw [List.map_cons, List.nodup_cons] at honce
      rcases List.mem_cons.mp hmem with rfl | hbehind
      · exact textIn_cons_self given givens
      · have hopt : first.opt ≠ given.opt := fun heq => honce.1 (heq ▸ List.mem_map_of_mem hbehind)
        rw [textIn_cons_of_ne hopt]
        exact ih honce.2 hbehind

theorem exists_giveAll_empty_iff :
    (∃ next, Values.giveAll {} givens = .ok next) ↔
      (∀ given ∈ unflagged givens, given.opt.use ≠ .shown ∧ given.opt.Takes given.text) ∧
        ((unflagged givens).map (·.opt)).Nodup ∧ flags givens ≤ 4 := by
  have hempty (opt : Opt) : Values.has {} opt = false := by
    cases opt <;> rfl
  have hplain : (∃ plain, Values.giveAll {} (unflagged givens) = .ok plain) ↔
      (∀ given ∈ unflagged givens, given.opt.use ≠ .shown ∧ given.opt.Takes given.text) ∧
        ((unflagged givens).map (·.opt)).Nodup := by
    rw [exists_giveAll_iff fun given hmem => (mem_unflagged_iff.mp hmem).2]
    simp only [hempty, true_and]
  rw [← and_assoc, ← hplain]
  constructor
  · rintro ⟨next, h⟩
    exact ⟨exists_giveAll_unflagged (Nat.zero_le 4) h, (verbosity_of_giveAll h).1⟩
  · rintro ⟨⟨plain, hplain⟩, hcount⟩
    rw [giveAll_of_unflagged hplain, if_pos hcount]
    exact ⟨_, rfl⟩

-- An option that takes a text has been set if it has been given.
theorem has_of_giveAll (h : Values.giveAll {} givens = .ok values) (hopt : opt ≠ .verbosity)
    (hshown : opt.use ≠ .shown) : values.has opt = (textIn givens opt).isSome := by
  have htext := (hasText_initial opt).giveAll h
  rw [Option.none_or] at htext
  exact htext.has_eq hopt hshown

theorem has_verbosity_of_giveAll (h : Values.giveAll {} givens = .ok values) :
    values.has .verbosity = false ↔ flags givens = 0 := by
  rw [Values.has, (verbosity_of_giveAll h).2]
  cases flags givens <;> simp [Verbosity.flagged]

theorem orderly_of_filled (hlevel : .verbosity ∈ options)
    (h : filled environment options givens = .ok next) : Orderly environment givens := by
  obtain ⟨values, hgiven, hfill⟩ := exists_of_bind_eq_ok h
  obtain ⟨htakes, honce, hcount⟩ := exists_giveAll_empty_iff.mp ⟨values, hgiven⟩
  refine ⟨fun given hmem => ?_, honce, hcount, fun hzero text hlookup => ?_⟩
  · by_cases hflag : given = .flag
    · subst hflag
      exact nofun
    · exact (htakes given (mem_unflagged_iff.mpr ⟨hmem, hflag⟩)).1
  · have hhas := (has_verbosity_of_giveAll hgiven).mpr hzero
    exact exists_fill_iff.mp ⟨next, hfill⟩ _ hlevel hhas text hlookup

theorem takes_of_filled (h : filled environment options givens = .ok next) (hmem : opt ∈ options)
    (hopt : opt ≠ .verbosity) (htext : textOf environment givens opt = some text) :
    opt.Takes text := by
  obtain ⟨values, hgiven, hfill⟩ := exists_of_bind_eq_ok h
  rw [textOf, Option.or_eq_some_iff] at htext
  rcases htext with htext | ⟨hnone, htext⟩
  · obtain ⟨given, hgivens, rfl, rfl⟩ := exists_of_textIn htext
    have htakes := (exists_giveAll_empty_iff.mp ⟨values, hgiven⟩).1
    exact (htakes given (mem_unflagged hgivens hopt)).2
  · have hhas := has_of_giveAll hgiven hopt (unshown_of_inherited htext)
    rw [hnone] at hhas
    exact exists_fill_iff.mp ⟨next, hfill⟩ opt hmem hhas text htext

theorem exists_filled (hgivens : ∀ given ∈ givens, given.opt ∈ options)
    (horderly : Orderly environment givens)
    (htakes : ∀ opt ∈ options, opt ≠ .verbosity →
      ∀ text, textOf environment givens opt = some text → opt.Takes text) :
    ∃ next, filled environment options givens = .ok next := by
  have hgiven : ∃ values, Values.giveAll {} givens = .ok values := by
    refine exists_giveAll_empty_iff.mpr ⟨fun given hmem => ?_, horderly.once, horderly.counted⟩
    obtain ⟨hgiven, hflag⟩ := mem_unflagged_iff.mp hmem
    have htext : textOf environment givens given.opt = some given.text := by
      rw [textOf, textIn_of_mem horderly.once hmem]
      rfl
    exact ⟨horderly.unshown given hgiven,
      htakes _ (hgivens given hgiven) (opt_ne_of_ne_flag hflag) _ htext⟩
  obtain ⟨values, hgiven⟩ := hgiven
  rw [filled, hgiven]
  refine exists_fill_iff.mpr fun opt hmem hhas text htext => ?_
  by_cases hopt : opt = .verbosity
  · subst hopt
    exact horderly.leveled ((has_verbosity_of_giveAll hgiven).mp hhas) text htext
  · rw [has_of_giveAll hgiven hopt (unshown_of_inherited htext), Option.isSome_eq_false_iff,
      Option.isNone_iff_eq_none] at hhas
    refine htakes opt hmem hopt text ?_
    rw [textOf, hhas]
    exact htext

-- Orderly words are accepted with the environment if every option takes its text.
theorem exists_filled_iff (hlevel : .verbosity ∈ options)
    (hgivens : ∀ given ∈ givens, given.opt ∈ options) :
    (∃ next, filled environment options givens = .ok next) ↔
      Orderly environment givens ∧ ∀ opt ∈ options, opt ≠ .verbosity →
        ∀ text, textOf environment givens opt = some text → opt.Takes text := by
  constructor
  · rintro ⟨next, h⟩
    exact ⟨orderly_of_filled hlevel h, fun _ hmem hopt _ => takes_of_filled h hmem hopt⟩
  · rintro ⟨horderly, htakes⟩
    exact exists_filled hgivens horderly htakes

-- Every option has its text afterwards, and one that is not asked for has what is given for it.
theorem hasText_of_filled (h : filled environment options givens = .ok next) (opt : Opt) :
    next.HasText opt (if opt ∈ options then textOf environment givens opt
      else textIn givens opt) := by
  obtain ⟨values, hgiven, hfill⟩ := exists_of_bind_eq_ok h
  have htext := ((hasText_initial opt).giveAll hgiven).fill hfill
  rw [Option.none_or] at htext
  split_ifs at htext ⊢
  · exact htext
  · rwa [Option.or_none] at htext

end Setting

end ChallengeLogin.CommandLine
