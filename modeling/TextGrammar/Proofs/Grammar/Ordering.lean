import TextGrammar.Proofs.Grammar.Agreement
import TextGrammar.Proofs.Matching.Renumbering

/-!
The order in which rules are declared. It says which rule is matched where none is asked for, and
nothing else: a grammar with the same rules in another order is built if the first one is, and a
match of a rule that is asked for by name takes the same steps under other numbers. What is shown
of it are names, so it looks the same.
-/

namespace TextGrammar

variable {number : RuleId → RuleId} {table other : RuleTable}

section Replay

variable (number)

def Call.renumbered : Call → Call
  | .enter event => .enter (event.renumbered number)
  | .leave event => .leave (event.renumbered number)
  | .token event lexeme => .token (event.renumbered number) lexeme

def OpenRule.renumbered (rule : OpenRule) : OpenRule :=
  { rule with event := rule.event.renumbered number }

def Replay.renumbered (replay : Replay) : Replay :=
  { replay with calls := replay.calls.map (·.renumbered number) }

end Replay

theorem Replay.renumbered_after (calls : List Call) (replay : Replay) :
    (replay.after calls).renumbered number =
      (replay.renumbered number).after (calls.map (·.renumbered number)) := by
  simp [renumbered, after]

theorem replayFrom_renumbered (number : RuleId → RuleId) (lexemes : Array Lexeme)
    (nest : List OpenRule) (events : List Event) :
    replayFrom lexemes (nest.map (·.renumbered number)) (events.map (·.renumbered number)) =
      (replayFrom lexemes nest events).renumbered number := by
  induction events generalizing nest with
  | nil => simp [replayFrom, Replay.renumbered, OpenRule.renumbered, Call.renumbered]
  | cons event rest ih =>
      have due : ((nest.map (·.renumbered number)).takeWhile fun rule =>
          rule.stop ≤ (event.renumbered number).start) =
            (nest.takeWhile fun rule => rule.stop ≤ event.start).map (·.renumbered number) :=
        List.takeWhile_map
      have shelter : ((nest.map (·.renumbered number)).dropWhile fun rule =>
          rule.stop ≤ (event.renumbered number).start) =
            (nest.dropWhile fun rule => rule.stop ≤ event.start).map (·.renumbered number) :=
        List.dropWhile_map
      have leaves : ∀ rules : List OpenRule,
          (rules.map (·.renumbered number)).map (fun rule => Call.leave rule.event) =
            (rules.map fun rule => Call.leave rule.event).map (·.renumbered number) := by
        intro rules
        rw [List.map_map, List.map_map]
        rfl
      rw [List.map_cons, replayFrom, replayFrom]
      rw [due, shelter, leaves, Event.subject_renumbered, Event.stop_renumbered,
        Event.start_renumbered]
      generalize nest.takeWhile (fun rule => rule.stop ≤ event.start) = ended
      generalize nest.dropWhile (fun rule => rule.stop ≤ event.start) = others
      cases event.subject with
      | rule id =>
          cases event.stop with
          | none => rfl
          | some stop =>
              have later := ih (⟨event, stop⟩ :: others)
              rw [List.map_cons] at later
              simp only [Subject.renumbered, Replay.renumbered_after, ← later, List.map_append]
              rfl
      | token id =>
          simp only [Subject.renumbered]
          cases lexemes[event.start]? with
          | none => rfl
          | some lexeme =>
              simp only [ih, Replay.renumbered_after, List.map_append]
              rfl

theorem ruleName_renumbered (renumbered : table.Renumbered number other) {id : RuleId}
    {name : String} (named : table.ruleName id = .ok name) :
    other.ruleName (number id) = .ok name := by
  rw [RuleTable.ruleName, RuleTable.ruleOf] at named ⊢
  rw [renumbered.rule?]
  cases declared : table.rule? id with
  | none =>
      rw [declared] at named
      cases named
  | some rule =>
      rw [declared] at named
      exact named

theorem tokenName_renumbered (renumbered : table.Renumbered number other) (id : TokenId) :
    other.tokenName id = table.tokenName id := by
  rw [RuleTable.tokenName, RuleTable.tokenName, renumbered.lexicon]

theorem outlineFrom_renumbered (renumbered : table.Renumbered number other) {depth : Nat}
    {calls : List Call} {lines : List String} (drawn : outlineFrom table depth calls = .ok lines) :
    outlineFrom other depth (calls.map (·.renumbered number)) = .ok lines := by
  induction calls generalizing depth lines with
  | nil => exact drawn
  | cons call rest ih =>
      cases call with
      | enter event =>
          obtain ⟨subject, start, stop⟩ := event
          cases subject with
          | token id => exact ih drawn
          | rule id =>
              cases named : table.ruleName id with
              | error fault =>
                  simp only [outlineFrom, Event.ruleId?, named] at drawn
                  cases drawn
              | ok name =>
                  rw [outlineFrom_enter rfl named] at drawn
                  obtain ⟨later, shown, rfl⟩ := map_eq_ok_iff.mp drawn
                  apply (outlineFrom_enter rfl (ruleName_renumbered renumbered named) _ _).trans
                  rw [ih shown, Except.map]
      | leave event =>
          cases depth with
          | zero => cases drawn
          | succ depth => exact ih drawn
      | token event lexeme =>
          cases named : table.tokenName lexeme.id with
          | error fault =>
              simp only [outlineFrom, named] at drawn
              cases drawn
          | ok name =>
              rw [outlineFrom_token named] at drawn
              obtain ⟨later, shown, rfl⟩ := map_eq_ok_iff.mp drawn
              rw [← tokenName_renumbered renumbered] at named
              apply (outlineFrom_token named _ _ _).trans
              rw [ih shown, Except.map]

theorem stepText_renumbered (renumbered : table.Renumbered number other) {step : Step}
    {line : String} (shown : table.stepText step = .ok line) :
    other.stepText (step.renumbered number) = .ok line := by
  cases step with
  | enter rule cursor =>
      obtain ⟨name, named, rfl⟩ := map_eq_ok_iff.mp shown
      simp only [Step.renumbered, RuleTable.stepText, ruleName_renumbered renumbered named]
      rfl
  | leave rule cursor matched =>
      cases matched with
      | true | false =>
          obtain ⟨name, named, rfl⟩ := map_eq_ok_iff.mp shown
          simp only [Step.renumbered, RuleTable.stepText, ruleName_renumbered renumbered named]
          rfl
  | test expected cursor found matched =>
      rw [← shown, Step.renumbered]
      simp only [RuleTable.stepText, tokenName_renumbered renumbered]
  | backtrack start stop => exact shown

@[simp] theorem Step.level_renumbered (step : Step) (depth : Nat) :
    (step.renumbered number).level depth = step.level depth := by
  cases step <;> rfl

@[simp] theorem Step.levelBehind_renumbered (step : Step) (depth : Nat) :
    (step.renumbered number).levelBehind depth = step.levelBehind depth := by
  cases step <;> rfl

theorem journalFrom_renumbered (renumbered : table.Renumbered number other) {depth : Nat}
    {steps : List Step} {lines : List String}
    (printed : table.journalFrom depth steps = .ok lines) :
    other.journalFrom depth (steps.map (Step.renumbered number)) = .ok lines := by
  induction steps generalizing depth lines with
  | nil => exact printed
  | cons step rest ih =>
      rw [RuleTable.journalFrom] at printed
      cases shown : table.stepText step with
      | error fault =>
          rw [shown] at printed
          cases printed
      | ok line =>
          rw [shown] at printed
          obtain ⟨later, behind, rfl⟩ := map_eq_ok_iff.mp printed
          rw [List.map_cons, RuleTable.journalFrom, stepText_renumbered renumbered shown]
          simp only [Step.level_renumbered, Step.levelBehind_renumbered, ih behind]
          rfl

def Recognition.renumbered (number : RuleId → RuleId) (recognition : Recognition) : Recognition :=
  { recognition with state := recognition.state.renumbered number }

theorem Recognition.ofOutcome_renumbered (lexemes : Array Lexeme) (outcome : Outcome) :
    ofOutcome lexemes (outcome.renumbered number) =
      (ofOutcome lexemes outcome).map (Recognition.renumbered number) := by
  obtain ⟨verdict, state⟩ := outcome
  cases verdict <;> rfl

theorem Recognition.replay_renumbered (recognition : Recognition) :
    (recognition.renumbered number).replay = recognition.replay.renumbered number := by
  have listed : (recognition.state.trail.renumbered number).events.toList =
      recognition.state.trail.events.toList.map (·.renumbered number) := by
    simp [Trail.renumbered]
  have replayed := replayFrom_renumbered number recognition.lexemes []
    recognition.state.trail.events.toList
  rw [← listed] at replayed
  exact replayed

namespace Grammar

variable {Context : Type} {one two : Grammar Context} {watch watchToo : Watch}

/-- Whether the rules of one grammar are those of another under other numbers, and the two are
otherwise alike and watch nothing. -/
structure Renumbered (number : RuleId → RuleId) (one two : Grammar Context) : Prop where
  table : one.table.Renumbered number two.table
  closed : one.table.Closed
  declares : 0 < one.table.size
  ignore : two.ignore = one.ignore
  limits : two.limits = one.limits
  watch : one.watch = .none ∧ two.watch = .none

namespace Renumbered

variable (renumbered : one.Renumbered number two)

include renumbered

theorem ruleNamed (name : String) :
    two.ruleNamed (some name) = (one.ruleNamed (some name)).map number := by
  have told : two.table.ruleId? name = (one.table.ruleId? name).map number :=
    renumbered.table.ruleId? name
  rw [Grammar.ruleNamed, Grammar.ruleNamed, told]
  cases one.table.ruleId? name <;> rfl

theorem tokenize (text : String) : two.tokenize text = one.tokenize text := by
  rw [Grammar.tokenize, Grammar.tokenize, renumbered.table.lexicon, renumbered.ignore]

theorem recognize (rules : ∀ id, watchToo.watchesRule (number id) = watch.watchesRule id)
    (tokens : ∀ id, watchToo.watchesToken id = watch.watchesToken id)
    {journal : Option (Array Step)} (blank : Blank journal) (text name : String) :
    two.recognize watchToo journal text (some name) =
      (one.recognize watch journal text (some name)).map (Recognition.renumbered number) := by
  have named := renumbered.ruleNamed name
  have cutToo := renumbered.tokenize text
  cases asked : one.ruleNamed (some name) with
  | error error =>
      rw [asked] at named
      rw [Grammar.recognize, Grammar.recognize, named, asked]
      rfl
  | ok id =>
      rw [asked] at named
      cases cut : one.tokenize text with
      | error error =>
          rw [cut] at cutToo
          rw [Grammar.recognize, Grammar.recognize, named, asked, cut, cutToo]
          rfl
      | ok lexemes =>
          rw [cut] at cutToo
          obtain ⟨rule, declared⟩ := rule?_of_ruleNamed renumbered.declares asked
          have alike : (one.recognizer watch lexemes).Renumbered number
              (two.recognizer watchToo lexemes) :=
            ⟨renumbered.table, renumbered.limits, rfl, rules, tokens⟩
          have ran := Recognizer.run_renumbered alike renumbered.closed declared journal
          have empty : journal.map (·.map (Step.renumbered number)) = journal := by
            rcases blank with rfl | rfl <;> simp
          rw [empty] at ran
          rw [recognize_eq_ofOutcome named cutToo, recognize_eq_ofOutcome asked cut, ran,
            Recognition.ofOutcome_renumbered]

theorem accepts (text name : String) :
    two.accepts text (some name) = one.accepts text (some name) := by
  rw [Grammar.accepts, Grammar.accepts,
    renumbered.recognize (fun _ => rfl) (fun _ => rfl) (.inl rfl) text name]
  cases one.recognize .none none text (some name) <;> rfl

theorem outline (text name : String) :
    two.outline text (some name) = one.outline text (some name) := by
  have rules : ∀ id, (Watch.all two.table).watchesRule (number id) =
      (Watch.all one.table).watchesRule id := by
    intro id
    rw [Watch.watchesRule_all, Watch.watchesRule_all, renumbered.table.rule?, Option.isSome_map]
  have tokens : ∀ id, (Watch.all two.table).watchesToken id =
      (Watch.all one.table).watchesToken id := by
    intro id
    rw [Watch.watchesToken, Watch.watchesToken, Watch.all, Watch.all, renumbered.table.lexicon]
  rw [Grammar.outline, Grammar.outline,
    renumbered.recognize rules tokens (.inl rfl) text name]
  cases recognized : one.recognize (.all one.table) none text (some name) with
  | error error => rfl
  | ok recognition =>
      dsimp only [Except.map]
      rw [Recognition.replay_renumbered]
      change (if recognition.matched = true then _ else _) = _
      split
      · next matched =>
          obtain ⟨lines, drawn⟩ := drawn_of_recognize recognized matched
          dsimp only [Replay.renumbered]
          rw [outlineFrom_renumbered renumbered.table drawn, drawn]
      · rfl

theorem trace (text name : String) :
    two.trace text (some name) = one.trace text (some name) := by
  rw [Grammar.trace, Grammar.trace, renumbered.watch.1, renumbered.watch.2,
    renumbered.recognize (fun _ => rfl) (fun _ => rfl) (.inr rfl) text name]
  cases recognized : one.recognize .none (some #[]) text (some name) with
  | error error => rfl
  | ok recognition =>
      obtain ⟨lines, printed⟩ :=
        printed_of_recognize renumbered.closed renumbered.declares recognized
      have steps : (recognition.renumbered number).state.journal.getD #[] =
          (recognition.state.journal.getD #[]).map (Step.renumbered number) := by
        rw [Recognition.renumbered, Progress.renumbered]
        cases recognition.state.journal with
        | none => simp
        | some steps => rfl
      dsimp only [Except.map]
      rw [steps, printed, RuleTable.journalLines, Array.toList_map,
        journalFrom_renumbered renumbered.table printed]
      rfl

end Renumbered

end Grammar

namespace Declaration

variable {Context : Type} {declaration : Declaration Context} {grammar other : Grammar Context}
  {engine : Engine} {reordered : List (String × String)}

def withRules (declaration : Declaration Context) (rules : List (String × String)) :
    Declaration Context := { declaration with rules := rules }

structure Unhooked (declaration : Declaration Context) : Prop where
  rules : declaration.ruleHooks = []
  tokens : declaration.tokenHooks = []

theorem Unhooked.withRules (unhooked : declaration.Unhooked) (rules : List (String × String)) :
    (declaration.withRules rules).Unhooked := ⟨unhooked.rules, unhooked.tokens⟩

theorem Unhooked.build_eq_ok_iff (unhooked : declaration.Unhooked) :
    declaration.build engine = .ok grammar ↔ ∃ lexicon table,
      Lexicon.ofDefinitions engine declaration.tokens = .ok lexicon ∧
        (declaration.ignore.find? fun name => (lexicon.id? name).isNone) = none ∧
        RuleTable.ofRules lexicon declaration.rules = .ok table ∧
        grammar = .bare table declaration.ignore declaration.limits := by
  constructor
  · intro builds
    unfold build at builds
    rw [unhooked.rules, unhooked.tokens] at builds
    split at builds
    · cases builds
    · next lexicon defined =>
        split at builds
        · cases builds
        · next known =>
            split at builds
            · cases builds
            · next table made =>
                cases builds
                exact ⟨lexicon, table, defined, known, made, rfl⟩
  · rintro ⟨lexicon, table, defined, known, made, rfl⟩
    rw [build, defined]
    dsimp only
    rw [known]
    dsimp only
    rw [made, unhooked.rules, unhooked.tokens]
    rfl

theorem Unhooked.builds_withRules (unhooked : declaration.Unhooked)
    (permuted : reordered.Perm declaration.rules)
    (builds : ∃ grammar, declaration.build engine = .ok grammar) :
    ∃ grammar, (declaration.withRules reordered).build engine = .ok grammar := by
  obtain ⟨grammar, builds⟩ := builds
  obtain ⟨lexicon, table, defined, known, made, -⟩ := unhooked.build_eq_ok_iff.mp builds
  obtain ⟨other, madeToo⟩ := (RuleTable.exists_ofRules_iff_of_perm permuted).mp ⟨table, made⟩
  exact ⟨_, (unhooked.withRules reordered).build_eq_ok_iff.mpr
    ⟨lexicon, other, defined, known, madeToo, rfl⟩⟩

theorem Unhooked.renumbered_withRules (unhooked : declaration.Unhooked)
    (permuted : reordered.Perm declaration.rules)
    (few : declaration.rules.length ≤ UInt32.size) (builds : declaration.build engine = .ok grammar)
    (buildsToo : (declaration.withRules reordered).build engine = .ok other) :
    grammar.Renumbered (grammar.table.numberIn other.table) other := by
  obtain ⟨lexicon, table, defined, -, made, rfl⟩ := unhooked.build_eq_ok_iff.mp builds
  obtain ⟨known, tableToo, definedToo, -, madeToo, rfl⟩ :=
    (unhooked.withRules reordered).build_eq_ok_iff.mp buildsToo
  cases defined.symm.trans definedToo
  have first := RuleTable.made_of_ofRules made
  have second := RuleTable.made_of_ofRules madeToo
  exact ⟨first.renumbered second permuted few, RuleTable.ofRules_closed made, first.size_pos,
    rfl, rfl, rfl, rfl⟩

/-- The order in which rules are declared makes no difference to whether a grammar is built from
them, nor, as long as there is a number for each rule, to what the grammar says of a text and a
rule that is asked for by name. -/
theorem order_irrelevant (unhooked : declaration.Unhooked)
    (permuted : reordered.Perm declaration.rules) :
    ((∃ grammar, declaration.build engine = .ok grammar) ↔
      ∃ grammar, (declaration.withRules reordered).build engine = .ok grammar) ∧
    (declaration.rules.length ≤ UInt32.size → ∀ grammar other,
      declaration.build engine = .ok grammar →
      (declaration.withRules reordered).build engine = .ok other →
      ∀ text name, other.accepts text (some name) = grammar.accepts text (some name) ∧
        other.outline text (some name) = grammar.outline text (some name) ∧
        other.trace text (some name) = grammar.trace text (some name)) := by
  refine ⟨⟨unhooked.builds_withRules permuted, ?_⟩, ?_⟩
  · exact (unhooked.withRules reordered).builds_withRules permuted.symm
  · intro few grammar other builds buildsToo text name
    have renumbered := unhooked.renumbered_withRules permuted few builds buildsToo
    exact ⟨renumbered.accepts text name, renumbered.outline text name,
      renumbered.trace text name⟩

/-- Without a name it is another rule that is matched. -/
theorem order_irrelevant_counting :
    let declaration := counting [] []
    let reordered := [("tail", "B*"), ("list", "A tail")]
    ∃ grammar other, declaration.build .plain = .ok grammar ∧
      (declaration.withRules reordered).build .plain = .ok other ∧
      other.accepts "abb" (some "list") = .ok true ∧
      other.outline "abb" (some "list") = grammar.outline "abb" (some "list") ∧
      other.trace "abb" (some "list") = grammar.trace "abb" (some "list") ∧
      grammar.accepts "abb" none = .ok true ∧ other.accepts "abb" none = .ok false := by
  intro declaration reordered
  obtain ⟨grammar, other, builds, buildsToo, named, first, second⟩ :
      ∃ grammar other, declaration.build .plain = .ok grammar ∧
        (declaration.withRules reordered).build .plain = .ok other ∧
        grammar.accepts "abb" (some "list") = .ok true ∧
        grammar.accepts "abb" none = .ok true ∧ other.accepts "abb" none = .ok false :=
    ⟨_, _, by cbv, by cbv, by cbv, by cbv, by cbv⟩
  have unhooked : declaration.Unhooked := ⟨rfl, rfl⟩
  have permuted : reordered.Perm declaration.rules := .swap _ _ _
  obtain ⟨accepts, outline, trace⟩ :=
    (order_irrelevant unhooked permuted).2 (by decide) grammar other builds buildsToo "abb" "list"
  exact ⟨grammar, other, builds, buildsToo, accepts.trans named, outline, trace, first, second⟩

end Declaration

end TextGrammar
