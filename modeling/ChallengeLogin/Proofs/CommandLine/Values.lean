import ChallengeLogin.CommandLine.Action

namespace ChallengeLogin.CommandLine

-- A word uses an option: by its name, with a value if it takes one, or by its letter
inductive Uses (word : String) (opt : Opt) : Prop
  | name {value : Option String} (hword : Word.ofText word = .long opt.name value)
      (hvalue : opt.use = .valued ∨ value = none) : Uses word opt
  | letter {letters : List Char} {c : Char} (hword : Word.ofText word = .letters letters)
      (hmem : c ∈ letters) (hletter : opt.letter? = some c) : Uses word opt

-- A property of values that is kept while only some of the options are set. An option with a
-- variable is always one of them.
structure Keeps (allowed : Opt → Prop) (kept : Values → Prop) : Prop where
  initial : kept {}
  put : ∀ {values next source opt text}, allowed opt → kept values →
    values.put source opt text = .ok next → kept next
  environment : ∀ {opt}, opt.envName?.isSome = true → allowed opt
  verbosity : ∀ {values} verbosity, kept values → kept { values with verbosity }

-- What has been read so far has the property, and the option that waits is one that may be set.
structure State.Within (allowed : Opt → Prop) (kept : Values → Prop) (state : State) : Prop where
  values : kept state.values
  pending : ∀ {opt value}, state.pending = some (opt, value) → allowed opt

-- What succeeds in two steps has succeeded in the first one.
theorem exists_of_bind_eq_ok {ε α β : Type} {first : Except ε α} {rest : α → Except ε β} {b : β}
    (h : first >>= rest = .ok b) : ∃ a, first = .ok a ∧ rest a = .ok b := by
  cases first with
  | error fault => cases h
  | ok a => exact ⟨a, rfl, h⟩

-- What is mapped to a success has been one.
theorem exists_of_map_eq_ok {ε α β : Type} {f : α → β} {first : Except ε α} {b : β}
    (h : first.map f = .ok b) : ∃ a, first = .ok a ∧ f a = b := by
  cases first with
  | error fault => cases h
  | ok a =>
    cases h
    exact ⟨a, rfl, rfl⟩

section Setting

variable {allowed : Opt → Prop} {kept : Values → Prop} {values next : Values} {opt : Opt}

theorem Keeps.assign (hkeeps : Keeps allowed kept) {value : Option String} (hopt : allowed opt)
    (hvalues : kept values) (h : State.assign values opt value = .ok next) : kept next := by
  unfold State.assign at h
  split at h
  · cases h
  · split at h
    · cases h
    · exact hkeeps.put hopt hvalues h

-- By induction on the options that variables may stand in for
theorem Keeps.fill (hkeeps : Keeps allowed kept) {environment : Environment} {options : List Opt}
    (hvalues : kept values) (h : fill environment options values = .ok next) : kept next := by
  induction options generalizing values with
  | nil =>
    cases h
    exact hvalues
  | cons opt rest ih =>
    rw [CommandLine.fill, List.foldlM_cons] at h
    obtain ⟨filled, hfilled, hrest⟩ := exists_of_bind_eq_ok h
    refine ih ?_ hrest
    split at hfilled
    · cases hfilled
      exact hvalues
    · split at hfilled
      · cases hfilled
        exact hvalues
      · rename_i text htext
        obtain ⟨name, hname, -⟩ := Option.bind_eq_some_iff.mp htext
        exact hkeeps.put (hkeeps.environment (Option.isSome_of_eq_some hname)) hvalues hfilled

end Setting

section Reading

variable {allowed : Opt → Prop} {kept : Values → Prop} {state next : State} {opt : Opt}
  {value : Option String}

theorem State.within_init (hkeeps : Keeps allowed kept) : State.Within allowed kept {} :=
  ⟨hkeeps.initial, fun hnone => nomatch hnone⟩

theorem State.Within.of_values {values : Values} (h : state.Within allowed kept)
    (hvalues : kept values) : State.Within allowed kept { state with values } :=
  ⟨hvalues, h.pending⟩

theorem State.Within.divide (h : state.Within allowed kept) :
    State.Within allowed kept { state with divided := true } :=
  ⟨h.values, h.pending⟩

-- A value for the option that waits for one is kept with it.
theorem State.Within.give (h : state.Within allowed kept)
    (hpending : state.pending = some (opt, none)) (word : String) :
    State.Within allowed kept { state with pending := some (opt, some word) } := by
  refine ⟨h.values, fun hsome => ?_⟩
  cases hsome
  exact h.pending hpending

theorem State.Within.settle (hkeeps : Keeps allowed kept) (h : state.Within allowed kept)
    (hsettle : state.settle = .ok next) : next.Within allowed kept := by
  unfold State.settle at hsettle
  split at hsettle
  · cases hsettle
    exact h
  · rename_i opt value hpending
    cases hassign : State.assign state.values opt value with
    | error fault =>
      rw [hassign] at hsettle
      cases hsettle
    | ok values =>
      rw [hassign] at hsettle
      cases hsettle
      exact ⟨hkeeps.assign (h.pending hpending) h.values hassign, fun hnone => nomatch hnone⟩

-- An option without a value is set in a state that keeps nothing back.
theorem exists_of_useBare (h : state.useBare opt = .ok next) :
    ∃ settled values text, state.settle = .ok settled ∧
      settled.values.put .words opt text = .ok values ∧ next = { settled with values } := by
  obtain ⟨settled, hsettled, hnext⟩ := exists_of_bind_eq_ok h
  split at hnext
  · cases hnext
  · obtain ⟨values, hput, ⟨⟩⟩ := exists_of_bind_eq_ok hnext
    exact ⟨settled, values, _, hsettled, hput, rfl⟩
  -- a bare option and one with a value are set alike
  all_goals
    split at hnext
    · cases hnext
    · obtain ⟨values, hput, ⟨⟩⟩ := exists_of_bind_eq_ok hnext
      exact ⟨settled, values, _, hsettled, hput, rfl⟩

theorem State.Within.useBare (hkeeps : Keeps allowed kept) (h : state.Within allowed kept)
    (hopt : allowed opt) (huse : state.useBare opt = .ok next) : next.Within allowed kept := by
  obtain ⟨settled, values, text, hsettled, hput, rfl⟩ := exists_of_useBare huse
  have hwithin := h.settle hkeeps hsettled
  exact hwithin.of_values (hkeeps.put hopt hwithin.values hput)

theorem State.Within.useValued (hkeeps : Keeps allowed kept) (h : state.Within allowed kept)
    (hopt : allowed opt) (huse : state.useValued opt value = .ok next) :
    next.Within allowed kept := by
  obtain ⟨settled, hsettled, hrest⟩ := exists_of_bind_eq_ok huse
  have hwithin := h.settle hkeeps hsettled
  split at hrest
  · cases hrest
    refine ⟨hwithin.values, fun hpending => ?_⟩
    cases hpending
    exact hopt
  · obtain ⟨values, hassign, hnext⟩ := exists_of_bind_eq_ok hrest
    cases hnext
    exact hwithin.of_values (hkeeps.assign hopt hwithin.values hassign)

theorem State.Within.long (hkeeps : Keeps allowed kept) {options : List Opt} {name : String}
    (h : state.Within allowed kept)
    (hname : ∀ opt, opt.name = name → opt.use = .valued ∨ value = none → allowed opt)
    (hlong : state.long options name value = .ok next) : next.Within allowed kept := by
  unfold State.long at hlong
  split at hlong
  · cases hlong
  · rename_i opt hfind
    have hnamed := List.find?_some hfind
    rw [decide_eq_true_eq] at hnamed
    split at hlong
    · exact h.useValued hkeeps (hname opt hnamed (.inl ‹_›)) hlong
    · split at hlong
      · cases hlong
      · exact h.useBare hkeeps (hname opt hnamed (.inr rfl)) hlong

-- By induction on the letters
theorem State.Within.cluster (hkeeps : Keeps allowed kept) {options : List Opt}
    {letters : List Char} (h : state.Within allowed kept)
    (hletters : ∀ opt, ∀ c ∈ letters, opt.letter? = some c → allowed opt)
    (hcluster : state.cluster options letters = .ok next) : next.Within allowed kept := by
  induction letters generalizing state with
  | nil =>
    cases hcluster
    exact h
  | cons c rest ih =>
    unfold State.cluster at hcluster
    split at hcluster
    · cases hcluster
    · rename_i opt hfind
      have hletter := List.find?_some hfind
      have hopt := hletters opt c List.mem_cons_self (of_decide_eq_true hletter)
      split at hcluster
      · exact h.useValued hkeeps hopt hcluster
      · split at hcluster
        · cases hcluster
        · exact ih (h.useBare hkeeps hopt ‹_›)
            (fun other d hd => hletters other d (List.mem_cons_of_mem c hd)) hcluster

-- By induction on the words; those behind the name of a command are still to be read.
theorem State.Within.readWords (hkeeps : Keeps allowed kept) {options : List Opt}
    {commands words : List String} {continuation : Continuation} (h : state.Within allowed kept)
    (hwords : ∀ word ∈ words, ∀ opt, Uses word opt → allowed opt)
    (hread : readWords options commands state words = .ok (next, continuation)) :
    next.Within allowed kept ∧ ∀ name rest, continuation = some (name, rest) → rest ⊆ words := by
  induction words generalizing state with
  | nil =>
    cases hread
    exact ⟨h, fun _ _ hnone => nomatch hnone⟩
  | cons word rest ih =>
    obtain ⟨hword, hrest⟩ := List.forall_mem_cons.mp hwords
    -- What is read behind the word leaves words that stand behind it.
    have hbehind {state : State} (h : state.Within allowed kept)
        (hread : CommandLine.readWords options commands state rest = .ok (next, continuation)) :
        next.Within allowed kept ∧
          ∀ name left, continuation = some (name, left) → left ⊆ word :: rest := by
      obtain ⟨hwithin, hleft⟩ := ih h hrest hread
      exact ⟨hwithin, fun name left hsome => List.subset_cons_of_subset _ (hleft name left hsome)⟩
    unfold CommandLine.readWords at hread
    -- Behind the divider every word is refused, and the name of a command ends the reading.
    split at hread
    · split at hread <;> cases hread
    split at hread
    · cases hread
      refine ⟨h, fun name words hsome => ?_⟩
      cases hsome
      exact List.subset_cons_self _ _
    -- One case for each kind of word
    split at hread
    · exact hbehind h.divide hread
    · rename_i name value hkind
      split at hread
      · cases hread
      · refine hbehind (h.long hkeeps (fun opt hname hvalue => ?_) ‹_›) hread
        subst hname
        exact hword opt (.name hkind hvalue)
    · rename_i letters hkind
      split at hread
      · cases hread
      · exact hbehind (h.cluster hkeeps
          (fun opt c hc hletter => hword opt (.letter hkind hc hletter)) ‹_›) hread
    · split at hread
      · exact hbehind (h.give ‹_› word) hread
      · split at hread <;> cases hread

end Reading

section Parsing

variable {allowed : Opt → Prop} {kept : Values → Prop} {environment : Environment}
  {words : List String}

theorem Keeps.command (hkeeps : Keeps allowed kept) {command : Command} {values : Values}
    (hwords : ∀ word ∈ words, ∀ opt, Uses word opt → allowed opt)
    (h : command.parse environment words = .ok values) : kept values := by
  obtain ⟨⟨state, continuation⟩, hread, hrest⟩ := exists_of_bind_eq_ok h
  obtain ⟨settled, hsettled, hrest⟩ := exists_of_bind_eq_ok hrest
  obtain ⟨filled, hfilled, hcomplete⟩ := exists_of_bind_eq_ok hrest
  have hwithin := ((State.within_init hkeeps).readWords hkeeps hwords hread).1
  unfold Command.complete at hcomplete
  split at hcomplete <;> cases hcomplete
  exact hkeeps.fill (hwithin.settle hkeeps hsettled).values hfilled

-- The values of an accepted command line have every property that its words keep.
theorem Keeps.parse (hkeeps : Keeps allowed kept) {program : Interface} {invocation : Invocation}
    (hwords : ∀ word ∈ words, ∀ opt, Uses word opt → allowed opt)
    (h : program.parse environment words = .ok invocation) : kept invocation.values := by
  obtain ⟨⟨state, continuation⟩, hread, hrest⟩ := exists_of_bind_eq_ok h
  obtain ⟨hwithin, hbehind⟩ := (State.within_init hkeeps).readWords hkeeps hwords hread
  cases continuation with
  | none =>
    obtain ⟨settled, hsettled, hrest⟩ := exists_of_bind_eq_ok hrest
    obtain ⟨filled, hfilled, hrest⟩ := exists_of_bind_eq_ok hrest
    split at hrest
    · split at hrest <;> cases hrest
    · cases hrest
      exact hkeeps.fill (hwithin.settle hkeeps hsettled).values hfilled
  | some behind =>
    obtain ⟨name, rest⟩ := behind
    simp only at hrest
    split at hrest
    · cases hrest
    · obtain ⟨inner, hinner, hrest⟩ := exists_of_bind_eq_ok hrest
      obtain ⟨outer, -, hrest⟩ := exists_of_bind_eq_ok hrest
      cases hrest
      refine hkeeps.verbosity _ (hkeeps.command (fun word hmem => ?_) hinner)
      exact hwords word (hbehind name rest rfl hmem)

end Parsing

section Asking

theorem demand_eq_ok {α : Type} {opt : Opt} {value : Option α} {a : α}
    (h : demand opt value = .ok a) : value = some a := by
  cases value <;> cases h
  rfl

-- An action has what it needs from the values.
theorem action_cases {invocation : Invocation} {action : Action}
    (h : invocation.action = .ok action) :
    (∃ url secretKey, invocation.values.url = some url ∧
      action = .login ⟨url, secretKey, invocation.values.nonce, invocation.values.showCookie⟩) ∨
    (∃ url cookie, invocation.values.url = some url ∧ action = .logout url cookie) ∨
    ∃ secretKey, action = .pubkey secretKey := by
  unfold Invocation.action at h
  split at h
  · obtain ⟨url, hurl, h⟩ := exists_of_bind_eq_ok h
    obtain ⟨secretKey, -, h⟩ := exists_of_bind_eq_ok h
    cases h
    exact .inl ⟨url, secretKey, demand_eq_ok hurl, rfl⟩
  · obtain ⟨url, hurl, h⟩ := exists_of_bind_eq_ok h
    obtain ⟨cookie, -, h⟩ := exists_of_bind_eq_ok h
    cases h
    exact .inr (.inl ⟨url, cookie, demand_eq_ok hurl, rfl⟩)
  · obtain ⟨secretKey, -, h⟩ := exists_of_bind_eq_ok h
    cases h
    exact .inr (.inr ⟨secretKey, rfl⟩)
  · cases h

end Asking

end ChallengeLogin.CommandLine
