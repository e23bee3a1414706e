import ChallengeLogin.Proofs.CommandLine.Orderly
import ChallengeLogin.Proofs.CommandLine.ShowCookie

namespace ChallengeLogin.CommandLine

section Words

variable {options : List Opt} {owed : Option Opt} {words left : List String} {word : String}
  {letters : List Char} {givens : List Given}

theorem opt_of_letters (h : Letters options letters givens owed) :
    (∀ given ∈ givens, given.opt ∈ options ∧ given.opt.letter?.isSome = true) ∧
      ∀ opt, owed = some opt → opt ∈ options := by
  induction h with
  | nil => exact ⟨nofun, nofun⟩
  | bare hmem hletter huse hrest ih =>
    exact ⟨List.forall_mem_cons.mpr ⟨⟨hmem, Option.isSome_of_eq_some hletter⟩, ih.1⟩, ih.2⟩
  | owed hmem hletter huse =>
    refine ⟨nofun, fun opt hopt => ?_⟩
    cases hopt
    exact hmem
  | equals hmem hletter huse value =>
    exact ⟨List.forall_mem_singleton.mpr ⟨hmem, Option.isSome_of_eq_some hletter⟩, nofun⟩
  | joined hmem hletter huse hfirst value =>
    exact ⟨List.forall_mem_singleton.mpr ⟨hmem, Option.isSome_of_eq_some hletter⟩, nofun⟩

-- Only options that are declared are given. By induction on how the words give them.
theorem opt_of_gives (h : Gives options owed words givens left)
    (howed : ∀ opt, owed = some opt → opt ∈ options) :
    ∀ given ∈ givens, given.opt ∈ options := by
  induction h with
  | nothing left => exact nofun
  | value huse hword hrest ih => exact List.forall_mem_cons.mpr ⟨howed _ rfl, ih nofun⟩
  | long hmem huse hrest ih => exact List.forall_mem_cons.mpr ⟨hmem, ih nofun⟩
  | longEquals hmem huse value hrest ih => exact List.forall_mem_cons.mpr ⟨hmem, ih nofun⟩
  | longOwed hmem huse hrest ih =>
    refine ih fun opt hopt => ?_
    cases hopt
    exact hmem
  | letters hletters hnonempty hrest ih =>
    obtain ⟨hfront, howed⟩ := opt_of_letters hletters
    exact List.forall_mem_append.mpr ⟨fun given hmem => (hfront given hmem).1, ih howed⟩

theorem spells_showCookieWord : Spells showCookieWord (.long "show-cookie" none) := by
  have hword : showCookieWord = Opt.dashed "show-cookie" := by decide
  rw [hword]
  exact .long (by decide) (by decide)

theorem ne_showCookieWord {kind : Word} (h : Spells word kind)
    (hkind : kind ≠ .long "show-cookie" none) : showCookieWord ≠ word := by
  rintro rfl
  exact hkind (h.ofText_eq.symm.trans spells_showCookieWord.ofText_eq)

theorem dashed_eq_showCookieWord_iff {opt : Opt} :
    showCookieWord = Opt.dashed opt.name ↔ opt = .showCookie := by
  cases opt <;> decide

-- The option that shows sessions is given by its own word and in no other way. By induction on how
-- the words give what they do.
theorem showCookie_mem_iff_of_gives (h : Gives options owed words givens left) :
    showCookieWord ∈ words ↔
      (∃ given ∈ givens, given.opt = .showCookie) ∨ showCookieWord ∈ left := by
  have hvalued {opt : Opt} (huse : opt.use = .valued) : opt ≠ .showCookie := by
    rintro rfl
    cases huse
  induction h with
  | nothing left => simp
  | value huse hword hrest ih =>
    have hne := ne_showCookieWord (.plain hword) nofun
    simp [hne, ih, Given.valued, hvalued huse]
  | long hmem huse hrest ih =>
    simp [dashed_eq_showCookieWord_iff, ih, Given.bare, or_assoc]
  | @longEquals opt words left givens hmem huse value hrest ih =>
    have hne := ne_showCookieWord (.longEquals opt.equals_not_mem_name value) (by simp)
    simp [hne, ih, Given.valued, hvalued huse]
  | longOwed hmem huse hrest ih =>
    have hne := mt dashed_eq_showCookieWord_iff.mp (hvalued huse)
    simp [hne, ih]
  | @letters letters front givens owed words left hletters hnonempty hrest ih =>
    have hne := ne_showCookieWord (hletters.spells hnonempty) nofun
    have hfront : ¬∃ given ∈ front, given.opt = .showCookie := by
      rintro ⟨given, hmem, hopt⟩
      have hletter := ((opt_of_letters hletters).1 given hmem).2
      rw [hopt] at hletter
      cases hletter
    simp only [List.mem_cons, hne, false_or, ih, List.mem_append, or_and_right, exists_or, hfront]

variable {before after : List Given} {command : Command}

theorem showCookieWord_ne_name : ∀ command ∈ program.commands, showCookieWord ≠ command.name := by
  decide

theorem Line.opt_mem (h : Line program words before command after) :
    (∀ given ∈ before, given.opt ∈ program.options) ∧
      ∀ given ∈ after, given.opt ∈ command.options := by
  obtain ⟨inner, hbefore, hafter⟩ := h.words
  refine ⟨opt_of_gives hbefore nofun, ?_⟩
  rcases hafter with hafter | hafter <;> exact opt_of_gives hafter nofun

theorem Line.showCookie_mem_iff (h : Line program words before command after) :
    showCookieWord ∈ words ↔ ∃ given ∈ after, given.opt = .showCookie := by
  obtain ⟨inner, hbefore, hafter⟩ := h.words
  have hfront : ¬∃ given ∈ before, given.opt = .showCookie := by
    rintro ⟨given, hmem, hopt⟩
    have hdeclared := h.opt_mem.1 given hmem
    rw [hopt] at hdeclared
    exact absurd hdeclared (by decide)
  have hinner : showCookieWord ∈ inner ↔ ∃ given ∈ after, given.opt = .showCookie := by
    rcases hafter with hafter | hafter
    · simp [showCookie_mem_iff_of_gives hafter]
    · have hdivider : showCookieWord ∉ ["--"] := by decide
      simp only [showCookie_mem_iff_of_gives hafter, hdivider, or_false]
  rw [showCookie_mem_iff_of_gives hbefore, List.mem_cons, ← hinner]
  simp [hfront, showCookieWord_ne_name command h.mem]

end Words

section Actions

variable {texts : Opt → Option String} {shows : Bool} {values : Values} {command : Command}
  {action : Action} {opt : Opt} {found : Option String} {text : String} {site : Url}

-- What texts ask of a command. Whether a login shows its session is not a matter of a text.
inductive Asks (texts : Opt → Option String) (shows : Bool) : Command → Action → Prop
  | login {text key : String} {site : Url} (htext : texts .url = some text)
      (hsite : siteOf text = .ok site) (hkey : texts .secretKey = some key) :
      Asks texts shows loginCommand (.login ⟨site, key, texts .nonce, shows⟩)
  | logout {text cookie : String} {site : Url} (htext : texts .url = some text)
      (hsite : siteOf text = .ok site) (hcookie : texts .cookie = some cookie) :
      Asks texts shows logoutCommand (.logout site cookie)
  | pubkey {key : String} (hkey : texts .secretKey = some key) :
      Asks texts shows pubkeyCommand (.pubkey key)

-- Every required option has a text that it takes.
def Supplied (texts : Opt → Option String) (command : Command) : Prop :=
  ∀ opt ∈ command.required, ∃ text, texts opt = some text ∧ opt.Takes text

theorem command_cases (hmem : command ∈ program.commands) :
    command = loginCommand ∨ command = logoutCommand ∨ command = pubkeyCommand := by
  simpa [program] using hmem

theorem exists_asks_iff (hmem : command ∈ program.commands) :
    (∃ action, Asks texts shows command action) ↔ Supplied texts command := by
  constructor
  · rintro ⟨action, hasks⟩ opt hopt
    cases hasks with
    | login htext hsite hkey =>
      have hopt : opt = .url ∨ opt = .secretKey := by simpa [loginCommand] using hopt
      rcases hopt with rfl | rfl
      · exact ⟨_, htext, _, hsite⟩
      · exact ⟨_, hkey, trivial⟩
    | logout htext hsite hcookie =>
      have hopt : opt = .url ∨ opt = .cookie := by simpa [logoutCommand] using hopt
      rcases hopt with rfl | rfl
      · exact ⟨_, htext, _, hsite⟩
      · exact ⟨_, hcookie, trivial⟩
    | pubkey hkey =>
      cases List.mem_singleton.mp hopt
      exact ⟨_, hkey, trivial⟩
  · intro hsupplied
    rcases command_cases hmem with rfl | rfl | rfl
    · obtain ⟨text, htext, site, hsite⟩ := hsupplied .url (by decide)
      obtain ⟨key, hkey, -⟩ := hsupplied .secretKey (by decide)
      exact ⟨_, .login htext hsite hkey⟩
    · obtain ⟨text, htext, site, hsite⟩ := hsupplied .url (by decide)
      obtain ⟨cookie, hcookie, -⟩ := hsupplied .cookie (by decide)
      exact ⟨_, .logout htext hsite hcookie⟩
    · obtain ⟨key, hkey, -⟩ := hsupplied .secretKey (by decide)
      exact ⟨_, .pubkey hkey⟩

theorem url_mem_required : ∀ command ∈ program.commands,
    .url ∈ command.options → .url ∈ command.required := by
  decide

-- The texts of a command that has all it needs are taken, each by its option.
theorem Supplied.takes (h : Supplied texts command) (hcommand : command ∈ program.commands)
    (hmem : opt ∈ command.options) (hopt : opt ≠ .verbosity) (htext : texts opt = some text) :
    opt.Takes text := by
  by_cases hurl : opt = .url
  · subst hurl
    obtain ⟨other, hother, htakes⟩ := h .url (url_mem_required command hcommand hmem)
    rw [htext] at hother
    cases hother
    exact htakes
  · exact takes_of_ne hurl hopt

theorem Values.HasText.url_eq_some_iff (h : values.HasText .url found) :
    values.url = some site ↔ ∃ text, found = some text ∧ siteOf text = .ok site := by
  have hurl : values.url.map Except.ok = found.map siteOf := h
  have hsite : values.url = some site ↔
      values.url.map (Except.ok (ε := String)) = some (.ok site) := by
    cases values.url <;> simp
  rw [hsite, hurl, Option.map_eq_some_iff]

-- An action is made of the texts that the values are set from.
theorem action_eq_ok_iff {steps : Nat} (hmem : command ∈ program.commands)
    (htexts : ∀ opt ∈ command.options, values.HasText opt (texts opt)) :
    Invocation.action ⟨some command.name, values, steps⟩ = .ok action ↔
      Asks texts values.showCookie command action := by
  have hurl (hmem : .url ∈ command.options) (site : Url) :
      values.url = some site ↔ ∃ text, texts .url = some text ∧ siteOf text = .ok site :=
    (htexts .url hmem).url_eq_some_iff
  have hsecret (hmem : .secretKey ∈ command.options) : values.secretKey = texts .secretKey :=
    htexts .secretKey hmem
  have hnonce (hmem : .nonce ∈ command.options) : values.nonce = texts .nonce :=
    htexts .nonce hmem
  have hheld (hmem : .cookie ∈ command.options) : values.cookie = texts .cookie :=
    htexts .cookie hmem
  constructor
  · intro h
    rcases command_cases hmem with rfl | rfl | rfl
    · obtain ⟨site, hsite, h⟩ := exists_of_bind_eq_ok h
      obtain ⟨key, hkey, h⟩ := exists_of_bind_eq_ok h
      cases h
      obtain ⟨text, htext, hsite⟩ := (hurl (by decide) site).mp (demand_eq_ok hsite)
      rw [hnonce (by decide)]
      exact .login htext hsite ((hsecret (by decide)).symm.trans (demand_eq_ok hkey))
    · obtain ⟨site, hsite, h⟩ := exists_of_bind_eq_ok h
      obtain ⟨cookie, hcookie, h⟩ := exists_of_bind_eq_ok h
      cases h
      obtain ⟨text, htext, hsite⟩ := (hurl (by decide) site).mp (demand_eq_ok hsite)
      exact .logout htext hsite ((hheld (by decide)).symm.trans (demand_eq_ok hcookie))
    · obtain ⟨key, hkey, h⟩ := exists_of_bind_eq_ok h
      cases h
      exact .pubkey ((hsecret (by decide)).symm.trans (demand_eq_ok hkey))
  · intro h
    cases h with
    | @login text key site htext hsite hkey =>
      have hsite := (hurl (by decide) site).mpr ⟨text, htext, hsite⟩
      have hkey := (hsecret (by decide)).trans hkey
      simp only [Invocation.action, loginCommand, hsite, hkey, hnonce (by decide), demand]
      rfl
    | @logout text cookie site htext hsite hcookie =>
      have hsite := (hurl (by decide) site).mpr ⟨text, htext, hsite⟩
      have hcookie := (hheld (by decide)).trans hcookie
      simp only [Invocation.action, logoutCommand, hsite, hcookie, demand]
      rfl
    | @pubkey key hkey =>
      have hkey := (hsecret (by decide)).trans hkey
      simp only [Invocation.action, pubkeyCommand, hkey, demand]
      rfl

end Actions

section Lines

variable {environment other : Environment} {words : List String} {before after givens : List Given}
  {command : Command} {invocation : Invocation} {values next : Values} {action : Action}

theorem complete_eq_ok_iff :
    command.complete values = .ok next ↔
      next = values ∧ ∀ opt ∈ command.required, values.has opt = true := by
  have hmissing : command.required.filter (fun opt => !values.has opt) = [] ↔
      ∀ opt ∈ command.required, values.has opt = true := by
    simp [List.filter_eq_nil_iff]
  rw [← hmissing, Command.complete]
  split
  · rename_i hnone
    simp [hnone, eq_comm]
  · rename_i hsome
    exact iff_of_false nofun fun h => hsome h.2

-- A command line is accepted if its values are, on both sides of the command.
theorem parse_eq_ok_iff (hline : Line program words before command after) :
    program.parse environment words = .ok invocation ↔
      ∃ outer inner, filled environment program.options before = .ok outer ∧
        filled environment command.options after = .ok inner ∧
        (∀ opt ∈ command.required, inner.has opt = true) ∧
        invocation = invoke command inner outer := by
  rw [regular_program.parse_of_line hline]
  constructor
  · intro h
    obtain ⟨outer, houter, h⟩ := exists_of_bind_eq_ok h
    obtain ⟨inner, hinner, h⟩ := exists_of_bind_eq_ok h
    obtain ⟨full, hfull, h⟩ := exists_of_bind_eq_ok h
    obtain ⟨completed, hcompleted, h⟩ := exists_of_bind_eq_ok h
    obtain ⟨fullOuter, hfullOuter, h⟩ := exists_of_bind_eq_ok h
    cases h
    obtain ⟨rfl, hrequired⟩ := complete_eq_ok_iff.mp hcompleted
    refine ⟨fullOuter, completed, ?_, ?_, hrequired, rfl⟩
    · rw [filled, houter]
      exact hfullOuter
    · rw [filled, hinner]
      exact hfull
  · rintro ⟨fullOuter, full, hbefore, hafter, hrequired, rfl⟩
    obtain ⟨outer, houter, hfullOuter⟩ := exists_of_bind_eq_ok hbefore
    obtain ⟨inner, hinner, hfull⟩ := exists_of_bind_eq_ok hafter
    have hcompleted := complete_eq_ok_iff.mpr ⟨rfl, hrequired⟩
    rw [houter, hinner]
    show (fill environment command.options inner >>= _) = _
    rw [hfull]
    show (command.complete full >>= fun _ => fill environment program.options outer >>= _) = _
    rw [hcompleted, hfullOuter]
    rfl

theorem required_facts : ∀ command ∈ program.commands, ∀ opt ∈ command.required,
    opt ∈ command.options ∧ opt ≠ .verbosity ∧ opt.use ≠ .shown := by
  decide

theorem showCookie_of_filled {options : List Opt} (h : filled environment options givens = .ok next) :
    next.showCookie = (textIn givens .showCookie).isSome := by
  have htext : next.showCookie = _ := hasText_of_filled h .showCookie
  rw [htext, textOf, inherited_eq_none rfl, Option.or_none, ite_self]

-- An accepted command line is in order, has all it needs, and comes to the action of its texts.
theorem asks_of_parse (hline : Line program words before command after)
    (h : program.parse environment words = .ok invocation) :
    Orderly environment before ∧ Orderly environment after ∧
      Supplied (textOf environment after) command ∧
      ∀ action, invocation.action = .ok action ↔
        Asks (textOf environment after) (decide (showCookieWord ∈ words)) command action := by
  obtain ⟨outer, inner, houter, hinner, hrequired, rfl⟩ := (parse_eq_ok_iff hline).mp h
  obtain ⟨hbefore, -⟩ := (exists_filled_iff (by decide) hline.opt_mem.1).mp ⟨outer, houter⟩
  obtain ⟨hafter, htakes⟩ := (exists_filled_iff (verbosity_mem_options command hline.mem)
    hline.opt_mem.2).mp ⟨inner, hinner⟩
  have htexts (opt : Opt) (hmem : opt ∈ command.options) :
      inner.HasText opt (textOf environment after opt) := by
    have htext := hasText_of_filled hinner opt
    rwa [if_pos hmem] at htext
  refine ⟨hbefore, hafter, fun opt hopt => ?_, fun action => ?_⟩
  · obtain ⟨hmem, hcounted, hshown⟩ := required_facts command hline.mem opt hopt
    have hsome := hrequired opt hopt
    rw [(htexts opt hmem).has_eq hcounted hshown, Option.isSome_iff_exists] at hsome
    obtain ⟨text, htext⟩ := hsome
    exact ⟨text, htext, htakes opt hmem hcounted text htext⟩
  · have hshows : decide (showCookieWord ∈ words) = inner.showCookie := by
      rw [showCookie_of_filled hinner, Bool.eq_iff_iff, decide_eq_true_iff, isSome_textIn_iff]
      exact hline.showCookie_mem_iff
    rw [hshows]
    exact action_eq_ok_iff hline.mem fun opt hmem => hasText_withVerbosity.mpr (htexts opt hmem)

theorem exists_parse_of_supplied (hline : Line program words before command after)
    (hbefore : Orderly environment before) (hafter : Orderly environment after)
    (hsupplied : Supplied (textOf environment after) command) :
    ∃ invocation, program.parse environment words = .ok invocation := by
  have hurl : ∀ opt ∈ program.options, opt ≠ .url := by decide
  obtain ⟨houter, hinner⟩ := hline.opt_mem
  obtain ⟨outer, houter⟩ := exists_filled houter hbefore fun opt hmem hcounted _ _ =>
    takes_of_ne (hurl opt hmem) hcounted
  obtain ⟨inner, hinner⟩ := exists_filled hinner hafter fun opt hmem hcounted _ htext =>
    hsupplied.takes hline.mem hmem hcounted htext
  refine ⟨_, (parse_eq_ok_iff hline).mpr ⟨outer, inner, houter, hinner, fun opt hopt => ?_, rfl⟩⟩
  obtain ⟨hmem, hcounted, hshown⟩ := required_facts command hline.mem opt hopt
  obtain ⟨text, htext, -⟩ := hsupplied opt hopt
  have hheld := hasText_of_filled hinner opt
  rw [if_pos hmem, htext] at hheld
  exact hheld.has_eq hcounted hshown

-- Environments that agree on all variables but those of options that are given
def AgreeBut (givens : List Given) (environment other : Environment) : Prop :=
  ∀ name, (∀ given ∈ unflagged givens, given.opt.envName? ≠ some name) →
    other.lookup name = environment.lookup name

theorem Opt.envName_inj {name : String} {opt asked : Opt} (hopt : opt.envName? = some name)
    (hasked : asked.envName? = some name) : opt = asked := by
  rw [← hopt] at hasked
  cases opt <;> cases asked <;> first | rfl | exact absurd hasked (by decide) | cases hopt

theorem AgreeBut.inherited_eq {opt : Opt} (h : AgreeBut givens environment other)
    (hnot : ∀ given ∈ unflagged givens, given.opt ≠ opt) :
    inherited other opt = inherited environment opt := by
  cases hname : opt.envName? with
  | none => rw [inherited_eq_none hname, inherited_eq_none hname]
  | some name =>
    rw [inherited, inherited, hname]
    exact h name fun given hmem hgiven => hnot given hmem (Opt.envName_inj hgiven hname)

theorem envName_of_mem_options :
    ∀ opt ∈ program.options, opt = .verbosity ∨ opt.envName? = none := by
  decide

-- The variable of an option that is given has no effect.
theorem parse_of_agreeBut (hline : Line program words before command after)
    (h : AgreeBut after environment other) :
    program.parse other words = program.parse environment words := by
  rw [regular_program.parse_of_line hline, regular_program.parse_of_line hline]
  cases houter : Values.giveAll {} before with
  | error fault => rfl
  | ok outer =>
    cases hinner : Values.giveAll {} after with
    | error fault => rfl
    | ok inner =>
      have hinside : fill other command.options inner =
          fill environment command.options inner := by
        refine fill_congr fun opt _ hhas => h.inherited_eq ?_
        rintro given hmem rfl
        obtain ⟨hgiven, hflag⟩ := mem_unflagged_iff.mp hmem
        have hshown := ((exists_giveAll_empty_iff.mp ⟨inner, hinner⟩).1 given hmem).1
        rw [has_of_giveAll hinner (opt_ne_of_ne_flag hflag) hshown] at hhas
        rw [isSome_textIn_iff.mpr ⟨given, hgiven, rfl⟩] at hhas
        cases hhas
      have houtside : fill other program.options outer =
          fill environment program.options outer := by
        refine fill_congr fun opt hmem _ => ?_
        rcases envName_of_mem_options opt hmem with rfl | hnone
        · exact h.inherited_eq fun given hmem => opt_ne_of_ne_flag (mem_unflagged_iff.mp hmem).2
        · rw [inherited_eq_none hnone, inherited_eq_none hnone]
      show (fill other command.options inner >>= fun filled => command.complete filled >>= fun _ =>
        fill other program.options outer >>= _) = _
      rw [hinside, houtside]
      rfl

end Lines

section Sources

variable {options : List Opt} {givens : List Given} {words : List String}

-- Options spelled out by their names, in any order, with values behind an equals sign or in the
-- next word
inductive Spelled (options : List Opt) : List Given → List String → Prop
  | nil : Spelled options [] []
  | bare {opt : Opt} {givens : List Given} {words : List String} (hmem : opt ∈ options)
      (huse : opt.use ≠ .valued) (hrest : Spelled options givens words) :
      Spelled options (.bare opt huse :: givens) (Opt.dashed opt.name :: words)
  | equals {opt : Opt} {givens : List Given} {words : List String} (hmem : opt ∈ options)
      (huse : opt.use = .valued) (text : String) (hrest : Spelled options givens words) :
      Spelled options (.valued opt huse text :: givens)
        ((Opt.dashed opt.name ++ "=" ++ text) :: words)
  | apart {opt : Opt} {givens : List Given} {words : List String} (hmem : opt ∈ options)
      (huse : opt.use = .valued) {text : String} (htext : IsValue text)
      (hrest : Spelled options givens words) :
      Spelled options (.valued opt huse text :: givens) (Opt.dashed opt.name :: text :: words)

theorem Spelled.gives (h : Spelled options givens words) : Gives options none words givens [] := by
  induction h with
  | nil => exact .nothing []
  | bare hmem huse hrest ih => exact .long hmem huse ih
  | equals hmem huse text hrest ih => exact .longEquals hmem huse text ih
  | apart hmem huse htext hrest ih => exact .longOwed hmem huse (.value huse htext ih)

-- Words and environment are interchangeable. Every accepted command line gives options and comes to
-- an action, and options that are spelled out behind a command are a command line. It is accepted
-- exactly if it is in order and every required option has a text that it takes; its action is made
-- of the texts alone, wherever they come from; and the variable of an option that is given has no
-- effect.
theorem action_decided_by_texts (environment : Environment) (words : List String) :
    (∀ invocation, program.parse environment words = .ok invocation →
      (∃ before command after, Line program words before command after) ∧
        ∃ action, invocation.action = .ok action) ∧
    (∀ command ∈ program.commands, ∀ after inner, words = command.name :: inner →
      Spelled command.options after inner → Line program words [] command after) ∧
    ∀ before command after, Line program words before command after →
      (∀ other, AgreeBut after environment other →
        program.parse other words = program.parse environment words) ∧
      ((∃ invocation, program.parse environment words = .ok invocation) ↔
        Orderly environment before ∧ Orderly environment after ∧
          Supplied (textOf environment after) command) ∧
      ∀ action, (∃ invocation, program.parse environment words = .ok invocation ∧
          invocation.action = .ok action) ↔
        Orderly environment before ∧ Orderly environment after ∧
          Asks (textOf environment after) (decide (showCookieWord ∈ words)) command action := by
  refine ⟨fun invocation h => ?_, ?_, fun before command after hline => ⟨?_, ?_, ?_⟩⟩
  · obtain ⟨before, command, after, hline⟩ := exists_line_of_parse rfl h
    obtain ⟨-, -, hsupplied, haction⟩ := asks_of_parse hline h
    obtain ⟨action, hasks⟩ := (exists_asks_iff hline.mem).mpr hsupplied
    exact ⟨⟨before, command, after, hline⟩, action, (haction action).mpr hasks⟩
  · rintro command hmem after inner rfl hspelled
    exact ⟨hmem, inner, .nothing _, .inl hspelled.gives⟩
  · intro other hagree
    exact parse_of_agreeBut hline hagree
  · constructor
    · rintro ⟨invocation, h⟩
      obtain ⟨hbefore, hafter, hsupplied, -⟩ := asks_of_parse hline h
      exact ⟨hbefore, hafter, hsupplied⟩
    · rintro ⟨hbefore, hafter, hsupplied⟩
      exact exists_parse_of_supplied hline hbefore hafter hsupplied
  · intro action
    constructor
    · rintro ⟨invocation, h, haction⟩
      obtain ⟨hbefore, hafter, -, hasks⟩ := asks_of_parse hline h
      exact ⟨hbefore, hafter, (hasks action).mp haction⟩
    · rintro ⟨hbefore, hafter, hasks⟩
      have hsupplied := (exists_asks_iff hline.mem).mp ⟨action, hasks⟩
      obtain ⟨invocation, h⟩ := exists_parse_of_supplied hline hbefore hafter hsupplied
      obtain ⟨-, -, -, haction⟩ := asks_of_parse hline h
      exact ⟨invocation, h, (haction action).mpr hasks⟩

-- A URL that is none of a site, with a key and an empty nonce
def mixedEnvironment : Environment :=
  [("SIGAUTH_URL", "ftp://mint.tld"), ("SIGAUTH_SECRET_KEY", "01"), ("SIGAUTH_NONCE", "")]

def mixedWords : List String :=
  ["login", "--show-cookie", "--url", "https://mint.tld"]

def mixedGivens : List Given :=
  [.bare .showCookie (by decide), .valued .url rfl "https://mint.tld"]

-- The URL that `https://mint.tld` is read as
def mint : Url :=
  { scheme := "https", host := some (.domain "mint.tld"), path := .segments [""] }

theorem siteOf_mint : siteOf "https://mint.tld" = .ok mint := by
  decide +kernel

-- The key and the nonce come from the environment, whose URL is not asked for.
theorem action_decided_by_texts_mixed :
    Line program mixedWords [] loginCommand mixedGivens ∧
      (∃ invocation, program.parse mixedEnvironment mixedWords = .ok invocation ∧
        invocation.action = .ok (.login ⟨mint, "01", some "", true⟩)) ∧
      program.parse mixedEnvironment.tail mixedWords =
        program.parse mixedEnvironment mixedWords := by
  obtain ⟨-, hspelled, hlines⟩ := action_decided_by_texts mixedEnvironment mixedWords
  have hline : Line program mixedWords [] loginCommand mixedGivens :=
    hspelled loginCommand (by decide) _ _ rfl
      (.bare (by decide) _ (.apart (by decide) rfl (by decide) .nil))
  obtain ⟨hother, -, haction⟩ := hlines _ _ _ hline
  have hlevel : mixedEnvironment.lookup levelVariable = none := by decide
  have hunset (text : String) : mixedEnvironment.lookup levelVariable ≠ some text := by
    rw [hlevel]
    exact nofun
  have hbefore : Orderly mixedEnvironment [] :=
    ⟨nofun, List.nodup_nil, Nat.zero_le 4, fun _ text htext => absurd htext (hunset text)⟩
  have hafter : Orderly mixedEnvironment mixedGivens :=
    ⟨by decide, by decide, by decide, fun _ text htext => absurd htext (hunset text)⟩
  refine ⟨hline, (haction _).mpr ⟨hbefore, hafter, .login rfl siteOf_mint rfl⟩, hother _ ?_⟩
  intro name hname
  have hurl : (name == "SIGAUTH_URL") = false := by
    rw [beq_eq_false_iff_ne]
    rintro rfl
    exact hname (.valued .url rfl "https://mint.tld") (by decide) rfl
  symm
  rw [mixedEnvironment, List.lookup_cons, hurl]
  rfl

end Sources

end ChallengeLogin.CommandLine
