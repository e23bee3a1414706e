import ChallengeLogin.Proofs.CommandLine.Flags

namespace ChallengeLogin.CommandLine

section Setting

variable {values next : Values} {source : Source} {opt other : Opt} {text : String}
  {found : Option String} {verbosity : Verbosity}

-- The texts that an option can take
def Opt.Takes : Opt → String → Prop
  | .url, text => ∃ site, siteOf text = .ok site
  | .verbosity, text => ∃ steps, stepsOf text = .ok steps
  | _, _ => True

-- An option has been set from a text, or not been set where there is none. Nothing is said of the
-- verbosity.
def Values.HasText (values : Values) (opt : Opt) (found : Option String) : Prop :=
  match opt with
  | .url => values.url.map .ok = found.map siteOf
  | .secretKey => values.secretKey = found
  | .nonce => values.nonce = found
  | .cookie => values.cookie = found
  | .showCookie => values.showCookie = found.isSome
  | .verbosity | .help | .version => True

theorem hasText_initial (opt : Opt) : Values.HasText {} opt none := by
  cases opt <;> trivial

theorem exists_put_iff : (∃ next, values.put source opt text = .ok next) ↔ opt.Takes text := by
  cases opt with
  | url =>
    simp only [Values.put, Opt.Takes]
    cases siteOf text <;> simp
  | verbosity =>
    simp only [Values.put, Opt.Takes]
    cases stepsOf text <;> simp
  | _ => exact ⟨fun _ => trivial, fun _ => ⟨_, rfl⟩⟩

theorem hasText_of_put (h : values.put source opt text = .ok next) :
    next.HasText opt (some text) := by
  cases opt with
  | url =>
    simp only [Values.put] at h
    split at h
    · rename_i site hsite
      cases h
      exact congrArg some hsite.symm
    · cases h
  | verbosity | help | version => trivial
  | _ =>
    cases h
    rfl

theorem Values.HasText.put (hother : other ≠ opt) (h : values.put source opt text = .ok next)
    (htext : values.HasText other found) : next.HasText other found := by
  unfold Values.put at h
  split at h
  case h_1 | h_6 =>
    split at h
    · cases h
      cases other <;> first | exact htext | exact absurd rfl hother
    · cases h
  all_goals
    cases h
    cases other <;> first | exact htext | exact absurd rfl hother

theorem hasText_or (opt : Opt) :
    (∀ {values : Values} {found : Option String}, values.HasText opt found) ∨
      opt ≠ .verbosity ∧ opt.use ≠ .shown := by
  cases opt with
  | verbosity | help | version => exact .inl trivial
  | _ => exact .inr ⟨nofun, nofun⟩

theorem Values.HasText.has_eq (htext : values.HasText opt found) (hopt : opt ≠ .verbosity)
    (hshown : opt.use ≠ .shown) : values.has opt = found.isSome := by
  cases opt with
  | url =>
    have hurl : values.url.map Except.ok = found.map siteOf := htext
    have hsome := congrArg Option.isSome hurl
    rwa [Option.isSome_map, Option.isSome_map] at hsome
  | verbosity => exact absurd rfl hopt
  | help | version => exact absurd rfl hshown
  | secretKey | nonce | cookie => exact congrArg Option.isSome htext
  | showCookie => exact htext

-- An option that has been set stays as it is, whatever else there is for it.
theorem Values.HasText.of_has (htext : values.HasText opt found) (hhas : values.has opt = true)
    (more : Option String) : values.HasText opt (found.or more) := by
  rcases hasText_or opt with hall | ⟨hopt, hshown⟩
  · exact hall
  · rw [htext.has_eq hopt hshown] at hhas
    obtain ⟨text, rfl⟩ := Option.isSome_iff_exists.mp hhas
    exact htext

-- An option that has not been set is set from the text that comes first.
theorem Values.HasText.of_not_has (htext : values.HasText opt found)
    (hhas : values.has opt = false) (hnext : next.HasText opt (some text)) :
    next.HasText opt (found.or (some text)) := by
  rcases hasText_or opt with hall | ⟨hopt, hshown⟩
  · exact hall
  · rw [htext.has_eq hopt hshown, Option.isSome_eq_false_iff, Option.isNone_iff_eq_none] at hhas
    rwa [hhas]

theorem hasText_withVerbosity :
    (values.withVerbosity verbosity).HasText opt found ↔ values.HasText opt found := by
  cases opt <;> exact Iff.rfl

theorem has_of_put (hother : other ≠ opt) (h : values.put source opt text = .ok next) :
    next.has other = values.has other := by
  unfold Values.put at h
  split at h
  case h_1 | h_6 =>
    split at h
    · cases h
      cases other <;> first | rfl | exact absurd rfl hother
    · cases h
  all_goals
    cases h
    cases other <;> first | rfl | exact absurd rfl hother

theorem has_self_of_put (hopt : opt ≠ .verbosity) (hshown : opt.use ≠ .shown)
    (h : values.put source opt text = .ok next) : next.has opt = true :=
  (hasText_of_put h).has_eq hopt hshown

end Setting

section Giving

variable {values next : Values} {opt : Opt} {given : Given} {givens : List Given}
  {found : Option String}

-- The text that an option is set from where it is given
def Given.text (given : Given) : String :=
  given.value.getD "true"

-- The text that is given for an option
def textIn (givens : List Given) (opt : Opt) : Option String :=
  (givens.find? (·.opt = opt)).map Given.text

theorem textIn_cons_self (given : Given) (givens : List Given) :
    textIn (given :: givens) given.opt = some given.text := by
  simp [textIn]

theorem textIn_cons_of_ne (h : given.opt ≠ opt) :
    textIn (given :: givens) opt = textIn givens opt := by
  simp [textIn, h]

theorem isSome_textIn_iff :
    (textIn givens opt).isSome = true ↔ ∃ given ∈ givens, given.opt = opt := by
  simp [textIn]

theorem exists_of_textIn {text : String} (h : textIn givens opt = some text) :
    ∃ given ∈ givens, given.opt = opt ∧ given.text = text := by
  obtain ⟨given, hfind, rfl⟩ := Option.map_eq_some_iff.mp h
  have hopt : given.opt = opt := by simpa using List.find?_some hfind
  exact ⟨given, List.mem_of_find?_eq_some hfind, hopt, rfl⟩

theorem unshown_of_give (h : values.give given = .ok next) : given.opt.use ≠ .shown := by
  intro hshown
  cases hvalue : given.value with
  | some text =>
    have hvalued := given.fits
    rw [hvalue, hshown] at hvalued
    cases hvalued
  | none =>
    rw [give_of_none hvalue, hshown] at h
    cases h

-- All but flags are set from their texts, once.
theorem give_of_ne_flag (hflag : given ≠ .flag) (hshown : given.opt.use ≠ .shown) :
    values.give given =
      if values.has given.opt then .error (.givenTwice given.opt.label)
      else values.put .words given.opt given.text := by
  cases hvalue : given.value with
  | some text =>
    simp only [Values.give, hvalue, State.assign, Given.text, Option.getD_some]
  | none =>
    rw [give_of_none hvalue]
    split
    · exact absurd ‹_› hshown
    · rename_i hcounted
      exact absurd (eq_verbosity_of_counted hcounted) (opt_ne_of_ne_flag hflag)
    all_goals simp only [Given.text, hvalue, Option.getD_none]

theorem exists_put_of_give (h : values.give given = .ok next) :
    ∃ text, values.put .words given.opt text = .ok next ∧
      (given ≠ .flag → text = given.text ∧ values.has given.opt = false) := by
  by_cases hflag : given = .flag
  · subst hflag
    rw [give_of_none rfl] at h
    exact ⟨_, h, fun hne => absurd rfl hne⟩
  · rw [give_of_ne_flag hflag (unshown_of_give h)] at h
    split at h
    · cases h
    · rename_i hhas
      exact ⟨given.text, h, fun _ => ⟨rfl, by simpa using hhas⟩⟩

theorem exists_give_iff (hflag : given ≠ .flag) :
    (∃ next, values.give given = .ok next) ↔
      given.opt.use ≠ .shown ∧ values.has given.opt = false ∧ given.opt.Takes given.text := by
  constructor
  · rintro ⟨next, h⟩
    obtain ⟨text, hput, hgiven⟩ := exists_put_of_give h
    obtain ⟨rfl, hhas⟩ := hgiven hflag
    exact ⟨unshown_of_give h, hhas, exists_put_iff.mp ⟨next, hput⟩⟩
  · rintro ⟨hshown, hhas, htakes⟩
    rw [give_of_ne_flag hflag hshown, hhas]
    exact exists_put_iff.mpr htakes

-- What is given without flags is accepted if nothing of it is shown, set before or given twice, and
-- every option takes its text. By induction on what is given.
theorem exists_giveAll_iff (hflags : ∀ given ∈ givens, given ≠ .flag) :
    (∃ next, values.giveAll givens = .ok next) ↔
      (∀ given ∈ givens, given.opt.use ≠ .shown ∧ values.has given.opt = false ∧
        given.opt.Takes given.text) ∧ (givens.map (·.opt)).Nodup := by
  induction givens generalizing values with
  | nil => exact iff_of_true ⟨values, rfl⟩ ⟨nofun, List.nodup_nil⟩
  | cons given givens ih =>
    obtain ⟨hflag, hflags⟩ := List.forall_mem_cons.mp hflags
    rw [List.forall_mem_cons, List.map_cons, List.nodup_cons, ← exists_give_iff hflag]
    -- What is behind is given after the first one has been set.
    have hbehind {middle : Values} (hgive : values.give given = .ok middle) (other : Given) :
        middle.has other.opt = false ↔ other.opt ≠ given.opt ∧ values.has other.opt = false := by
      obtain ⟨text, hput, -⟩ := exists_put_of_give hgive
      by_cases hother : other.opt = given.opt
      · have hself := has_self_of_put (opt_ne_of_ne_flag hflag) (unshown_of_give hgive) hput
        rw [hother, hself]
        simp
      · rw [has_of_put hother hput]
        simp [hother]
    constructor
    · rintro ⟨next, h⟩
      rw [Values.giveAll_cons] at h
      obtain ⟨middle, hgive, hrest⟩ := exists_of_bind_eq_ok h
      obtain ⟨hgivens, hnodup⟩ := (ih hflags).mp ⟨next, hrest⟩
      refine ⟨⟨⟨middle, hgive⟩, fun other hmem => ?_⟩, fun hmem => ?_, hnodup⟩
      · obtain ⟨hshown, hhas, htakes⟩ := hgivens other hmem
        exact ⟨hshown, ((hbehind hgive other).mp hhas).2, htakes⟩
      · obtain ⟨other, hother, heq⟩ := List.mem_map.mp hmem
        exact ((hbehind hgive other).mp (hgivens other hother).2.1).1 heq
    · rintro ⟨⟨⟨middle, hgive⟩, hgivens⟩, hnew, hnodup⟩
      rw [Values.giveAll_cons, hgive]
      refine (ih hflags).mpr ⟨fun other hmem => ?_, hnodup⟩
      obtain ⟨hshown, hhas, htakes⟩ := hgivens other hmem
      have hother : other.opt ≠ given.opt := fun heq => hnew (heq ▸ List.mem_map_of_mem hmem)
      exact ⟨hshown, (hbehind hgive other).mpr ⟨hother, hhas⟩, htakes⟩

-- What has been given is there afterwards. By induction on what is given.
theorem Values.HasText.giveAll (htext : values.HasText opt found)
    (h : values.giveAll givens = .ok next) : next.HasText opt (found.or (textIn givens opt)) := by
  induction givens generalizing values found with
  | nil =>
    cases h
    rwa [textIn, List.find?_nil, Option.map_none, Option.or_none]
  | cons given givens ih =>
    rw [Values.giveAll_cons] at h
    obtain ⟨middle, hgive, hrest⟩ := exists_of_bind_eq_ok h
    obtain ⟨text, hput, hgiven⟩ := exists_put_of_give hgive
    by_cases hopt : given.opt = opt
    · subst hopt
      by_cases hflag : given = .flag
      · subst hflag
        trivial
      · obtain ⟨rfl, hhas⟩ := hgiven hflag
        have hmiddle := ih (htext.of_not_has hhas (hasText_of_put hput)) hrest
        rw [textIn_cons_self]
        rwa [Option.or_assoc, Option.some_or] at hmiddle
    · rw [textIn_cons_of_ne hopt]
      exact ih (htext.put (Ne.symm hopt) hput) hrest

end Giving

section Filling

variable {environment other : Environment} {options : List Opt} {values next : Values} {opt : Opt}
  {found : Option String}

-- The text that the environment has for an option
def inherited (environment : Environment) (opt : Opt) : Option String :=
  opt.envName?.bind (List.lookup · environment)

theorem inherited_eq_none (h : opt.envName? = none) : inherited environment opt = none := by
  rw [inherited, h]
  rfl

theorem unshown_of_inherited {text : String} (h : inherited environment opt = some text) :
    opt.use ≠ .shown := by
  obtain ⟨name, hname, -⟩ := Option.bind_eq_some_iff.mp h
  intro hshown
  cases opt with
  | help | version => cases hname
  | _ => cases hshown

theorem fill_one_of_has (h : values.has opt = true) :
    fill environment [opt] values = .ok values := by
  rw [fill_one, if_pos h]

theorem fill_one_of_not_has (h : values.has opt = false) :
    fill environment [opt] values = match inherited environment opt with
      | none => .ok values
      | some text => values.put .environment opt text := by
  rw [fill_one, h]
  rfl

theorem exists_fill_one_iff :
    (∃ next, fill environment [opt] values = .ok next) ↔
      (values.has opt = false → ∀ text, inherited environment opt = some text → opt.Takes text) := by
  cases hhas : values.has opt with
  | true => exact iff_of_true ⟨values, fill_one_of_has hhas⟩ nofun
  | false =>
    rw [fill_one_of_not_has hhas]
    cases inherited environment opt with
    | none => exact iff_of_true ⟨values, rfl⟩ fun _ _ => nofun
    | some text => simp [exists_put_iff]

theorem has_of_fill_one {asked : Opt} (hopt : opt ≠ asked)
    (h : fill environment [asked] values = .ok next) : next.has opt = values.has opt := by
  cases hhas : values.has asked with
  | true =>
    rw [fill_one_of_has hhas] at h
    cases h
    rfl
  | false =>
    rw [fill_one_of_not_has hhas] at h
    split at h
    · cases h
      rfl
    · exact has_of_put hopt h

-- What is still missing has been missing before.
theorem not_has_of_fill_one {asked : Opt} (h : fill environment [asked] values = .ok next)
    (hhas : next.has opt = false) : values.has opt = false := by
  by_cases hopt : opt = asked
  · subst hopt
    by_contra hbefore
    rw [fill_one_of_has (by simpa using hbefore)] at h
    cases h
    exact hbefore hhas
  · rwa [has_of_fill_one hopt h] at hhas

theorem Values.HasText.fill_one {asked : Opt} (htext : values.HasText opt found)
    (h : fill environment [asked] values = .ok next) :
    next.HasText opt (found.or (if opt = asked then inherited environment opt else none)) := by
  cases hhas : values.has asked with
  | true =>
    rw [fill_one_of_has hhas] at h
    cases h
    split_ifs with hopt
    · subst hopt
      exact htext.of_has hhas _
    · rwa [Option.or_none]
  | false =>
    rw [fill_one_of_not_has hhas] at h
    split at h
    · rename_i hnone
      cases h
      split_ifs with hopt
      · subst hopt
        rwa [hnone, Option.or_none]
      · rwa [Option.or_none]
    · rename_i text hsome
      split_ifs with hopt
      · subst hopt
        rw [hsome]
        exact htext.of_not_has hhas (hasText_of_put h)
      · rw [Option.or_none]
        exact htext.put hopt h

-- Values are filled up if every option that has not been set takes the text of its variable. By
-- induction on the options; an option that is asked twice has been set the second time.
theorem exists_fill_iff :
    (∃ next, fill environment options values = .ok next) ↔
      ∀ opt ∈ options, values.has opt = false →
        ∀ text, inherited environment opt = some text → opt.Takes text := by
  induction options generalizing values with
  | nil => exact iff_of_true ⟨values, rfl⟩ nofun
  | cons asked options ih =>
    rw [List.forall_mem_cons, ← exists_fill_one_iff, fill_cons]
    constructor
    · rintro ⟨next, h⟩
      obtain ⟨middle, hasked, hrest⟩ := exists_of_bind_eq_ok h
      refine ⟨⟨middle, hasked⟩, fun opt hmem hhas => ?_⟩
      by_cases hopt : opt = asked
      · subst hopt
        exact exists_fill_one_iff.mp ⟨middle, hasked⟩ hhas
      · rw [← has_of_fill_one hopt hasked] at hhas
        exact ih.mp ⟨next, hrest⟩ opt hmem hhas
    · rintro ⟨⟨middle, hasked⟩, hoptions⟩
      rw [hasked]
      refine ih.mpr fun opt hmem hhas => ?_
      by_cases hopt : opt = asked
      · subst hopt
        exact exists_fill_one_iff.mp ⟨middle, hasked⟩ (not_has_of_fill_one hasked hhas)
      · exact hoptions opt hmem (not_has_of_fill_one hasked hhas)

-- Each option that is asked for is there afterwards, if its variable is. By induction on the options.
theorem Values.HasText.fill (htext : values.HasText opt found)
    (h : fill environment options values = .ok next) :
    next.HasText opt (found.or (if opt ∈ options then inherited environment opt else none)) := by
  induction options generalizing values found with
  | nil =>
    cases h
    rwa [if_neg List.not_mem_nil, Option.or_none]
  | cons asked options ih =>
    rw [fill_cons] at h
    obtain ⟨middle, hasked, hrest⟩ := exists_of_bind_eq_ok h
    have hnext := ih (htext.fill_one hasked) hrest
    by_cases hopt : opt = asked
    · subst hopt
      rw [if_pos rfl, Option.or_assoc] at hnext
      rw [if_pos List.mem_cons_self]
      split_ifs at hnext
      · rwa [Option.or_self] at hnext
      · rwa [Option.or_none] at hnext
    · have hmem : opt ∈ asked :: options ↔ opt ∈ options := by simp [hopt]
      rw [if_neg hopt, Option.or_none] at hnext
      simpa only [hmem] using hnext

-- Environments that agree on what has not been set fill values up alike. By induction on the options.
theorem fill_congr
    (h : ∀ opt ∈ options, values.has opt = false →
      inherited other opt = inherited environment opt) :
    fill other options values = fill environment options values := by
  induction options generalizing values with
  | nil => rfl
  | cons asked options ih =>
    obtain ⟨hfirst, hbehind⟩ := List.forall_mem_cons.mp h
    have hasked : fill other [asked] values = fill environment [asked] values := by
      cases hhas : values.has asked with
      | true => rw [fill_one_of_has hhas, fill_one_of_has hhas]
      | false => rw [fill_one_of_not_has hhas, fill_one_of_not_has hhas, hfirst hhas]
    have hrest : fill environment [asked] values >>= fill other options =
        fill environment [asked] values >>= fill environment options := by
      cases hmiddle : fill environment [asked] values with
      | error fault => rfl
      | ok middle =>
        exact ih fun opt hmem hhas => hbehind opt hmem (not_has_of_fill_one hmiddle hhas)
    calc fill other (asked :: options) values
        = fill other [asked] values >>= fill other options := fill_cons asked options values
      _ = fill environment [asked] values >>= fill other options := by rw [hasked]
      _ = fill environment [asked] values >>= fill environment options := hrest
      _ = fill environment (asked :: options) values := (fill_cons asked options values).symm

end Filling

end ChallengeLogin.CommandLine
