import ChallengeLogin.Proofs.CommandLine.Values
import ChallengeLogin.Proofs.CommandLine.Words

namespace ChallengeLogin.CommandLine

section Giving

-- Sets an option as it is given.
def Values.give (values : Values) (given : Given) : Except Fault Values :=
  match given.value with
  | some text => State.assign values given.opt (some text)
  | none => (State.useBare { values } given.opt).map (·.values)

def Values.giveAll (values : Values) (givens : List Given) : Except Fault Values :=
  givens.foldlM Values.give values

variable {values : Values}

theorem Values.giveAll_cons (given : Given) (givens : List Given) :
    values.giveAll (given :: givens) = values.give given >>= (·.giveAll givens) :=
  List.foldlM_cons

theorem Values.giveAll_append (front givens : List Given) :
    values.giveAll (front ++ givens) = values.giveAll front >>= (·.giveAll givens) :=
  List.foldlM_append

end Giving

section States

-- The values with those that are kept back. An option without its value is not among them.
def State.given (state : State) : Except Fault Values :=
  match state.pending with
  | some (opt, some text) => State.assign state.values opt (some text)
  | _ => .ok state.values

-- A state that keeps nothing back
abbrev State.ofValues (values : Values) : State :=
  { values }

-- The states between words: nothing is kept back, a value is, or an option has the next word.
inductive State.Ready (options : List Opt) : Option Opt → State → Prop
  | settled (values : Values) : Ready options none (.ofValues values)
  | held (values : Values) {opt : Opt} (hmem : opt ∈ options) (huse : opt.use = .valued)
      (text : String) : Ready options none { values, pending := some (opt, some text) }
  | owing (values : Values) {opt : Opt} (hmem : opt ∈ options) (huse : opt.use = .valued) :
      Ready options (some opt) { values, pending := some (opt, none) }

variable {β : Type} {options : List Opt} {givens : List Given} {state : State} {opt : Opt}
  {rest : State → Except Fault β} {finish : Values → Except Fault β}

theorem State.Ready.undivided {owed : Option Opt} (h : state.Ready options owed) :
    state.divided = false := by
  cases h <;> rfl

theorem State.Ready.owed_eq_none {owed : Option Opt} (h : state.Ready options owed)
    (hnot : state.awaitsValue = false) : owed = none := by
  cases h with
  | settled values => rfl
  | held values hmem huse text => rfl
  | owing values hmem huse => cases hnot

theorem State.Ready.settle_eq (h : state.Ready options none) :
    state.settle = state.given.map .ofValues := by
  cases h <;> rfl

-- What follows a state that keeps nothing back follows the values.
theorem bind_map_ofValues {given : Except Fault Values}
    (h : ∀ values, rest (.ofValues values) = finish values) :
    given.map .ofValues >>= rest = given >>= finish := by
  cases given with
  | error fault => rfl
  | ok values => exact h values

theorem useBare_settled (values : Values) (huse : opt.use ≠ .valued) :
    State.useBare (.ofValues values) opt =
      (values.give (.bare opt huse)).map .ofValues := by
  show _ = ((State.useBare (.ofValues values) opt).map (·.values)).map State.ofValues
  cases hnext : State.useBare (.ofValues values) opt with
  | error fault => rfl
  | ok next =>
    obtain ⟨_, _, _, ⟨⟩, -, rfl⟩ := exists_of_useBare hnext
    rfl

-- What is kept back is set before an option, and what follows sees its value among the others.
theorem State.Ready.useBare_bind (h : state.Ready options none) (huse : opt.use ≠ .valued)
    (hrest : ∀ values, rest (.ofValues values) = values.giveAll givens >>= finish) :
    state.useBare opt >>= rest =
      state.given >>= fun values => values.giveAll (.bare opt huse :: givens) >>= finish := by
  have hsettle : state.useBare opt =
      state.given >>= fun values => State.useBare (.ofValues values) opt := by
    rw [State.useBare, h.settle_eq]
    cases state.given <;> rfl
  rw [hsettle, bind_assoc]
  congr 1
  funext values
  rw [useBare_settled values huse, bind_map_ofValues hrest, Values.giveAll_cons, bind_assoc]

theorem State.Ready.useValued_bind (h : state.Ready options none) (huse : opt.use = .valued)
    (text : String) (hrest : ∀ values, rest (.ofValues values) = values.giveAll givens >>= finish) :
    state.useValued opt (some text) >>= rest =
      state.given >>= fun values => values.giveAll (.valued opt huse text :: givens) >>= finish := by
  have hsettle : state.useValued opt (some text) =
      state.given >>= fun values => (values.give (.valued opt huse text)).map .ofValues := by
    rw [State.useValued, h.settle_eq]
    cases state.given with
    | error fault => rfl
    | ok values =>
      show (State.assign values opt (some text) >>= fun values => .ok (State.ofValues values)) =
        (State.assign values opt (some text)).map .ofValues
      cases State.assign values opt (some text) <;> rfl
  rw [hsettle, bind_assoc]
  congr 1
  funext values
  rw [bind_map_ofValues hrest, Values.giveAll_cons, bind_assoc]

theorem State.Ready.useValued_none_bind (h : state.Ready options none)
    (hrest : ∀ values, rest { values, pending := some (opt, none) } = finish values) :
    state.useValued opt none >>= rest = state.given >>= finish := by
  rw [State.useValued, h.settle_eq]
  cases state.given with
  | error fault => rfl
  | ok values => exact hrest values

variable {owed : Option Opt} {next : State} {value : Option String}

-- An option that has the next word lets no other option come first.
theorem State.Ready.settle_ok (h : state.Ready options owed) (hsettle : state.settle = .ok next) :
    owed = none ∧ ∃ values, next = .ofValues values := by
  cases owed with
  | none =>
    rw [h.settle_eq] at hsettle
    obtain ⟨values, -, rfl⟩ := exists_of_map_eq_ok hsettle
    exact ⟨rfl, values, rfl⟩
  | some opt =>
    cases h
    cases hsettle

theorem State.Ready.of_useBare (h : state.Ready options owed)
    (huse : state.useBare opt = .ok next) : owed = none ∧ next.Ready options none := by
  obtain ⟨settled, values, _, hsettled, -, rfl⟩ := exists_of_useBare huse
  obtain ⟨howed, _, rfl⟩ := h.settle_ok hsettled
  exact ⟨howed, .settled values⟩

theorem State.Ready.of_useValued (h : state.Ready options owed) (hmem : opt ∈ options)
    (hvalued : opt.use = .valued) (huse : state.useValued opt value = .ok next) :
    owed = none ∧ next.Ready options (if value = none then some opt else none) := by
  obtain ⟨settled, hsettled, hnext⟩ := exists_of_bind_eq_ok huse
  obtain ⟨howed, settled, rfl⟩ := h.settle_ok hsettled
  refine ⟨howed, ?_⟩
  cases value with
  | none =>
    cases hnext
    exact .owing settled hmem hvalued
  | some text =>
    obtain ⟨values, -, ⟨⟩⟩ := exists_of_bind_eq_ok hnext
    exact .settled values

end States

section Words

variable {β : Type} {options : List Opt} {commands words left : List String} {word : String}
  {givens : List Given} {owed : Option Opt} {state : State} {finish : Values → Except Fault β}

-- A word of an option is no name of a command.
theorem contains_of_spells {kind : Word} (hcommands : ∀ name ∈ commands, IsValue name)
    (hword : Spells word kind) (hkind : kind ≠ .plain) : commands.contains word = false := by
  rw [List.contains_eq_mem, decide_eq_false_iff_not]
  intro hmem
  exact hkind (hword.ofText_eq.symm.trans (Spells.plain (hcommands word hmem)).ofText_eq)

theorem readWords_long {name : String} {value : Option String}
    (hcommands : ∀ name ∈ commands, IsValue name) (hword : Spells word (.long name value))
    (hstate : state.Ready options none) :
    readWords options commands state (word :: words) =
      state.long options name value >>= (readWords options commands · words) := by
  simp only [readWords, hstate.undivided, contains_of_spells hcommands hword nofun,
    hword.ofText_eq, Bool.and_false, Bool.false_eq_true, if_false]
  cases state.long options name value <;> rfl

theorem readWords_letters {letters : List Char}
    (hcommands : ∀ name ∈ commands, IsValue name) (hword : Spells word (.letters letters))
    (hstate : state.Ready options none) :
    readWords options commands state (word :: words) =
      state.cluster options letters >>= (readWords options commands · words) := by
  simp only [readWords, hstate.undivided, contains_of_spells hcommands hword nofun,
    hword.ofText_eq, Bool.and_false, Bool.false_eq_true, if_false]
  cases state.cluster options letters <;> rfl

-- Letters set what they give; one that has the next word is left to it. By induction on them.
theorem cluster_of_letters {letters : List Char} {rest : State → Except Fault β}
    (h : Letters options letters givens owed)
    (hrest : ∀ next : State, next.Ready options owed → rest next = next.given >>= finish)
    (hstate : state.Ready options none) :
    state.cluster options letters >>= rest =
      state.given >>= fun values => values.giveAll givens >>= finish := by
  induction h generalizing state with
  | nil => exact hrest state hstate
  | @bare opt c letters givens owed hmem hletter huse hletters ih =>
    have hstep : state.cluster options (c :: letters) =
        state.useBare opt >>= (·.cluster options letters) := by
      simp only [State.cluster, find_letter hmem hletter, if_neg huse]
      cases state.useBare opt <;> rfl
    rw [hstep, bind_assoc]
    exact hstate.useBare_bind huse fun values => ih hrest (.settled values)
  | owed hmem hletter huse =>
    simp only [State.cluster, find_letter hmem hletter, if_pos huse]
    exact hstate.useValued_none_bind fun values => hrest _ (.owing values hmem huse)
  | equals hmem hletter huse value =>
    simp only [State.cluster, find_letter hmem hletter, if_pos huse]
    exact hstate.useValued_bind huse _ fun values => hrest _ (.settled values)
  | @joined opt c first hmem hletter huse hfirst value =>
    simp only [State.cluster, find_letter hmem hletter, if_pos huse]
    split
    · rename_i hnil
      cases hnil
    · rename_i hequals
      exact absurd (List.cons.inj hequals).1 hfirst
    · exact hstate.useValued_bind huse _ fun values => hrest _ (.settled values)

-- Reading sets what the words give. By induction on how they give it.
theorem readWords_of_gives {rest : State × Continuation → Except Fault β}
    (hcommands : ∀ name ∈ commands, IsValue name) (h : Gives options owed words givens left)
    (hleft : ∀ state : State, state.Ready options none →
      readWords options commands state left >>= rest = state.given >>= finish)
    (hstate : state.Ready options owed) :
    readWords options commands state words >>= rest =
      state.given >>= fun values => values.giveAll givens >>= finish := by
  induction h generalizing state with
  | nothing left => exact hleft state hstate
  | @value opt word words left givens huse hword hrest ih =>
    cases hstate with
    | owing values hmem huse =>
      have hread : readWords options commands { values, pending := some (opt, none) }
            (word :: words) =
          readWords options commands { values, pending := some (opt, some word) } words := by
        simp only [readWords, (Spells.plain hword).ofText_eq, State.awaitsValue]
        rfl
      rw [hread, ih hleft (.held values hmem huse word)]
      simp only [Values.giveAll_cons, bind_assoc]
      rfl
  | @long opt words left givens hmem huse hrest ih =>
    rw [readWords_long hcommands (.long opt.equals_not_mem_name opt.name_ne_empty) hstate,
      bind_assoc]
    simp only [State.long, find_name hmem, if_neg huse]
    exact hstate.useBare_bind huse fun values => ih hleft (.settled values)
  | @longEquals opt words left givens hmem huse value hrest ih =>
    rw [readWords_long hcommands (.longEquals opt.equals_not_mem_name value) hstate, bind_assoc]
    simp only [State.long, find_name hmem, if_pos huse]
    exact hstate.useValued_bind huse value fun values => ih hleft (.settled values)
  | @longOwed opt words left givens hmem huse hrest ih =>
    rw [readWords_long hcommands (.long opt.equals_not_mem_name opt.name_ne_empty) hstate,
      bind_assoc]
    simp only [State.long, find_name hmem, if_pos huse]
    exact hstate.useValued_none_bind fun values => ih hleft (.owing values hmem huse)
  | letters hletters hnonempty hrest ih =>
    rw [readWords_letters hcommands (hletters.spells hnonempty) hstate, bind_assoc,
      cluster_of_letters hletters (fun next hnext => ih hleft hnext) hstate]
    simp only [Values.giveAll_append, bind_assoc]

variable {next : State} {continuation : Continuation}

-- Letters that are accepted give something. By induction on them.
theorem letters_of_cluster {letters : List Char} (hstate : state.Ready options owed)
    (h : state.cluster options letters = .ok next) :
    (letters ≠ [] → owed = none) ∧
      (owed = none → ∃ givens owed, Letters options letters givens owed ∧
        next.Ready options owed) := by
  induction letters generalizing state owed with
  | nil =>
    cases h
    refine ⟨fun hne => absurd rfl hne, ?_⟩
    rintro rfl
    exact ⟨[], none, .nil, hstate⟩
  | cons c letters ih =>
    unfold State.cluster at h
    split at h
    · cases h
    · rename_i opt hfind
      have hmem := List.mem_of_find?_eq_some hfind
      have hletter := List.find?_some hfind
      rw [decide_eq_true_eq] at hletter
      split at h
      · rename_i huse
        obtain ⟨howed, hnext⟩ := hstate.of_useValued hmem huse h
        refine ⟨fun _ => howed, fun _ => ?_⟩
        cases letters with
        | nil => exact ⟨[], some opt, .owed hmem hletter huse, hnext⟩
        | cons first value =>
          by_cases hfirst : first = '='
          · subst hfirst
            exact ⟨_, none, .equals hmem hletter huse value, hnext⟩
          · refine ⟨_, none, .joined hmem hletter huse hfirst value, ?_⟩
            simpa [hfirst] using hnext
      · rename_i huse
        split at h
        · cases h
        · obtain ⟨howed, hready⟩ := hstate.of_useBare ‹_›
          refine ⟨fun _ => howed, fun _ => ?_⟩
          obtain ⟨givens, left, hletters, hnext⟩ := (ih hready h).2 rfl
          exact ⟨_, left, .bare hmem hletter huse hletters, hnext⟩

theorem option_of_long {name : String} {value : Option String} (hstate : state.Ready options owed)
    (h : state.long options name value = .ok next) :
    owed = none ∧ ∃ opt ∈ options, opt.name = name ∧
      (opt.use = .valued ∧ next.Ready options (if value = none then some opt else none) ∨
        opt.use ≠ .valued ∧ value = none ∧ next.Ready options none) := by
  unfold State.long at h
  split at h
  · cases h
  · rename_i opt hfind
    have hmem := List.mem_of_find?_eq_some hfind
    have hname := List.find?_some hfind
    rw [decide_eq_true_eq] at hname
    split at h
    · rename_i huse
      obtain ⟨howed, hnext⟩ := hstate.of_useValued hmem huse h
      exact ⟨howed, opt, hmem, hname, .inl ⟨huse, hnext⟩⟩
    · rename_i huse
      split at h
      · cases h
      · obtain ⟨howed, hnext⟩ := hstate.of_useBare h
        exact ⟨howed, opt, hmem, hname, .inr ⟨huse, rfl, hnext⟩⟩

-- Where reading ends: with the words, of which two dashes may be left, or at the name of a command
def Ends (commands left : List String) : Continuation → Prop
  | none => left = [] ∨ left = ["--"]
  | some (name, rest) => left = name :: rest ∧ name ∈ commands

-- Words that are accepted give something, up to where reading ends. By induction on them.
theorem gives_of_readWords (hstate : state.Ready options owed)
    (h : readWords options commands state words = .ok (next, continuation))
    (hnext : continuation = none → next.awaitsValue = false) :
    ∃ givens left, Gives options owed words givens left ∧ Ends commands left continuation := by
  induction words generalizing state owed with
  | nil =>
    cases h
    cases hstate.owed_eq_none (hnext rfl)
    exact ⟨[], [], .nothing [], .inl rfl⟩
  | cons word words ih =>
    unfold readWords at h
    rw [hstate.undivided, if_neg Bool.false_ne_true] at h
    split at h
    · rename_i hcommand
      cases h
      rw [Bool.and_eq_true, Bool.not_eq_true', List.contains_iff_mem] at hcommand
      cases hstate.owed_eq_none hcommand.1
      exact ⟨[], _, .nothing _, rfl, hcommand.2⟩
    -- One case for each kind of word
    split at h
    · rename_i hword
      cases ofText_eq_iff.mp hword
      -- Nothing may follow the divider.
      cases words with
      | nil =>
        cases h
        cases hstate.owed_eq_none (hnext rfl)
        exact ⟨[], _, .nothing _, .inr rfl⟩
      | cons other words =>
        rw [readWords, if_pos rfl] at h
        split at h <;> cases h
    · rename_i name value hword
      split at h
      · cases h
      · obtain ⟨rfl, opt, hmem, rfl, ⟨huse, hready⟩ | ⟨huse, rfl, hready⟩⟩ :=
          option_of_long hstate ‹_›
        all_goals
          obtain ⟨givens, left, hgives, hleft⟩ := ih hready h
        · cases ofText_eq_iff.mp hword with
          | long hname hnonempty => exact ⟨_, left, .longOwed hmem huse hgives, hleft⟩
          | longEquals hname value => exact ⟨_, left, .longEquals hmem huse value hgives, hleft⟩
        · cases ofText_eq_iff.mp hword with
          | long hname hnonempty => exact ⟨_, left, .long hmem huse hgives, hleft⟩
    · rename_i letters hword
      split at h
      · cases h
      · obtain ⟨howed, hgiven⟩ := letters_of_cluster hstate ‹_›
        cases ofText_eq_iff.mp hword with
        | @letters c hc rest =>
          have hletters : c :: rest ≠ [] := List.cons_ne_nil c rest
          cases howed hletters
          obtain ⟨front, owed, hfront, hready⟩ := hgiven rfl
          obtain ⟨givens, left, hgives, hleft⟩ := ih hready h
          exact ⟨_, left, .letters hfront hletters hgives, hleft⟩
    · rename_i hword
      split at h
      · rename_i opt hpending
        cases hstate with
        | settled values => cases hpending
        | held values hmem huse text => cases hpending
        | owing values hmem huse =>
          cases hpending
          cases ofText_eq_iff.mp hword with
          | plain hvalue =>
            obtain ⟨givens, left, hgives, hleft⟩ := ih (.held values hmem huse word) h
            exact ⟨_, left, .value huse hvalue hgives, hleft⟩
      · split at h <;> cases h

end Words

section Parsing

variable {environment : Environment} {words : List String} {givens : List Given}

-- The values of a command are what its words give, filled up from the environment.
theorem Command.parse_of_givesAll {command : Command}
    (h : GivesAll command.options words givens) :
    command.parse environment words =
      Values.giveAll {} givens >>= fun values =>
        fill environment command.options values >>= command.complete := by
  have hread {left : List String} (h : Gives command.options none words givens left)
      (hleft : ∀ state : State, state.Ready command.options none → ∃ divided,
        readWords command.options [] state left = .ok ({ state with divided }, none)) :
      command.parse environment words =
        Values.giveAll {} givens >>= fun values =>
          fill environment command.options values >>= command.complete := by
    refine readWords_of_gives nofun h (fun state hstate => ?_) (.settled {})
    obtain ⟨divided, hdivided⟩ := hleft state hstate
    rw [hdivided]
    cases hstate with
    | settled values => rfl
    | held values hmem huse text =>
      show (State.assign values _ (some text)).map _ >>= _ = State.assign values _ (some text) >>= _
      cases State.assign values _ (some text) <;> rfl
  rcases h with h | h
  · exact hread h fun state _ => ⟨state.divided, rfl⟩
  · exact hread h fun state hstate => ⟨true, by cases hstate <;> rfl⟩

-- A program whose commands differ in name, none of them an option, and whose own options take
-- no value
structure Interface.Regular (program : Interface) : Prop where
  found : ∀ command ∈ program.commands,
    program.commands.find? (·.name = command.name) = some command
  plain : ∀ name ∈ program.commandNames, IsValue name
  unvalued : ∀ opt ∈ program.options, opt.use ≠ .valued

theorem regular_program : program.Regular where
  found := by decide
  plain := by decide
  unvalued := by decide

-- A command line: what the words in front of the name of a command give, and those behind it
structure Line (program : Interface) (words : List String) (before : List Given)
    (command : Command) (after : List Given) : Prop where
  mem : command ∈ program.commands
  words : ∃ inner, Gives program.options none words before (command.name :: inner) ∧
    GivesAll command.options inner after

-- What an invocation comes to, from the values of the command and those of the program
def invoke (command : Command) (inner outer : Values) : Invocation :=
  let verbosity := inner.verbosity.within outer.verbosity
  ⟨some command.name, { inner with verbosity }, verbosity.steps⟩

variable {program : Interface} {before after : List Given} {command : Command}

-- What a command line comes to depends on what its words give alone.
theorem Interface.Regular.parse_of_line (hregular : program.Regular)
    (h : Line program words before command after) :
    program.parse environment words = (do
      let outer ← Values.giveAll {} before
      let inner ← Values.giveAll {} after
      let inner ← fill environment command.options inner
      let inner ← command.complete inner
      let outer ← fill environment program.options outer
      return invoke command inner outer) := by
  obtain ⟨hmem, inner, hbefore, hafter⟩ := h
  have hname : program.commandNames.contains command.name = true := by
    rw [Interface.commandNames, if_neg (by simp [List.ne_nil_of_mem hmem])]
    simp only [List.contains_eq_mem, List.mem_append, decide_eq_true_eq]
    exact .inl (List.mem_map_of_mem hmem)
  rw [Interface.parse]
  refine readWords_of_gives hregular.plain hbefore (fun state hstate => ?_) (.settled {})
  cases hstate with
  | settled values =>
    have hread : readWords program.options program.commandNames (.ofValues values)
        (command.name :: inner) = .ok (.ofValues values, some (command.name, inner)) := by
      simp only [readWords, hname, State.awaitsValue]
      rfl
    rw [hread]
    dsimp only [bind, Except.bind]
    rw [hregular.found command hmem]
    show (command.parse environment inner >>= fun inner =>
      fill environment program.options values >>= fun outer => .ok (invoke command inner outer)) = _
    rw [Command.parse_of_givesAll hafter]
    simp only [bind_assoc]
    rfl
  | held values hmem huse text => exact absurd huse (hregular.unvalued _ hmem)

theorem awaitsValue_of_settle {state next : State} (h : state.settle = .ok next) :
    state.awaitsValue = false := by
  unfold State.settle at h
  split at h
  · simp only [State.awaitsValue, *]
  · rename_i opt value hpending
    cases value with
    | none => cases h
    | some text => simp only [State.awaitsValue, hpending]

theorem exists_givesAll_of_parse {values : Values}
    (h : command.parse environment words = .ok values) :
    ∃ givens, GivesAll command.options words givens := by
  obtain ⟨⟨state, continuation⟩, hread, hrest⟩ := exists_of_bind_eq_ok h
  obtain ⟨settled, hsettle, -⟩ := exists_of_bind_eq_ok hrest
  obtain ⟨givens, left, hgives, hleft⟩ :=
    gives_of_readWords (.settled {}) hread fun _ => awaitsValue_of_settle hsettle
  refine ⟨givens, ?_⟩
  cases continuation with
  | none =>
    rcases hleft with rfl | rfl
    · exact .inl hgives
    · exact .inr hgives
  | some behind => exact absurd hleft.2 List.not_mem_nil

-- The words of every accepted command line give something.
theorem exists_line_of_parse {invocation : Invocation} (hneeds : program.needsCommand = true)
    (h : program.parse environment words = .ok invocation) :
    ∃ before command after, Line program words before command after := by
  obtain ⟨⟨state, continuation⟩, hread, hrest⟩ := exists_of_bind_eq_ok h
  cases continuation with
  | none =>
    obtain ⟨_, -, hrest⟩ := exists_of_bind_eq_ok hrest
    obtain ⟨_, -, hrest⟩ := exists_of_bind_eq_ok hrest
    rw [if_pos hneeds] at hrest
    split at hrest <;> cases hrest
  | some behind =>
    obtain ⟨name, rest⟩ := behind
    obtain ⟨before, left, hbefore, rfl, -⟩ := gives_of_readWords (.settled {}) hread nofun
    simp only at hrest
    split at hrest
    · cases hrest
    · rename_i command hfind
      have hname := List.find?_some hfind
      rw [decide_eq_true_eq] at hname
      subst hname
      obtain ⟨inner, hinner, -⟩ := exists_of_bind_eq_ok hrest
      obtain ⟨after, hafter⟩ := exists_givesAll_of_parse hinner
      exact ⟨before, command, after, List.mem_of_find?_eq_some hfind, rest, hbefore, hafter⟩

end Parsing

end ChallengeLogin.CommandLine
