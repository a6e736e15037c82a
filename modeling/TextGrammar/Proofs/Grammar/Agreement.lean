import TextGrammar.Proofs.Grammar.Independence
import TextGrammar.Proofs.Matching.Faultless
import TextGrammar.Proofs.Replay.Drawing
import TextGrammar.Proofs.Rules.Resolution
import TextGrammar.Proofs.Scanning.Cutting

/-!
What can be asked about a text, and that the answers agree. A parse, the question whether all of
a text is accepted, an outline and a trace each run the match with a watch of its own, and the
trace notes the steps besides. Neither makes a difference to the match, so all of them come to
the same end and are given up for the same reason.
-/

namespace TextGrammar

section Lexemes

variable {lexicon : Lexicon}

theorem name?_of_drain {ignored : List TokenId} {effort : Nat} {buffers : List Buffer}
    {lexemes : List Lexeme}
    (drained : (Scanner.drain lexicon ignored effort buffers).1 = .ok lexemes) :
    ∀ lexeme ∈ lexemes, ∃ name, lexicon.name? lexeme.id = some name := by
  induction effort generalizing buffers lexemes with
  | zero =>
      cases drained
      exact List.forall_mem_nil _
  | succ effort ih =>
      rw [Scanner.drain] at drained
      split at drained
      · cases drained
      · cases drained
        exact List.forall_mem_nil _
      · next first below cut =>
          split at drained
          · cases drained
          · split at drained
            · cases drained
            · next later =>
                cases drained
                have behind := ih (congrArg Prod.fst later)
                split
                · exact behind
                · have known := (Scanner.gives_of_nextFrom cut).named rfl
                  exact List.forall_mem_cons.mpr ⟨known, behind⟩

theorem Lexicon.labels_of_tokenize {ignore : List String} {text : List Char}
    {lexemes : List Lexeme} (cut : lexicon.tokenize ignore text = .ok lexemes) :
    lexicon.Labels lexemes.toArray := by
  rw [tokenize, Scanner.all] at cut
  intro lexeme member
  exact name?_of_drain cut lexeme (by simpa using member)

end Lexemes

def Recognition.ofOutcome (lexemes : Array Lexeme) : Outcome → Except ParseError Recognition
  | ⟨.matched, state⟩ => .ok ⟨lexemes, true, state⟩
  | ⟨.failed, state⟩ => .ok ⟨lexemes, false, state⟩
  | ⟨.stopped why, _⟩ => .error (.stopped why)

theorem Recognition.ofOutcome_of_decided {lexemes : Array Lexeme} {outcome : Outcome}
    {matched : Bool} (decided : outcome.verdict = if matched then .matched else .failed) :
    ofOutcome lexemes outcome = .ok ⟨lexemes, matched, outcome.state⟩ := by
  obtain ⟨verdict, state⟩ := outcome
  cases matched with
  | true => cases decided; rfl
  | false => cases decided; rfl

namespace Recognizer

variable {r : Recognizer} {id : RuleId} {journal : Option (Array Step)}

theorem run_of_matched (accepted : (r.run id journal).verdict = .matched) :
    (r.run id journal).state.cursor ≤ r.lexemes.size ∧
      ((r.run id journal).state.trail.replay r.lexemes).fault = none := by
  rcases ran : r.run id journal with ⟨verdict, after⟩
  rw [ran] at accepted
  cases accepted
  obtain ⟨forest, found, -⟩ := run_finds ran
  have faithful : forest.Faithful r.watch r.lexemes 0 after.cursor := found.faithful
  have inside := faithful.inside
  rw [Nat.zero_max] at inside
  exact ⟨inside, (run_cues ran).1⟩

theorem run_of_failed (rejected : (r.run id journal).verdict = .failed) :
    (r.run id journal).state.cursor = 0 := by
  have atomic := runRule_atomic (r := r) (tryWithin_conservative (r := r) r.limits.fuel.toNat) id
    (.start r.limits journal)
  change (r.run id journal).Atomic _ at atomic
  rcases ran : r.run id journal with ⟨verdict, after⟩
  rw [ran] at rejected atomic
  cases rejected
  exact atomic.2.1

end Recognizer

namespace Grammar

variable {Context : Type} {grammar : Grammar Context} {text : String} {rule : Option String}
  {context : Context} {id : RuleId} {lexemes : List Lexeme}

def recognizer (grammar : Grammar Context) (watch : Watch) (lexemes : List Lexeme) : Recognizer :=
  ⟨grammar.table, watch, grammar.limits, lexemes.toArray⟩

/-- Whether whatever is asked about a text fails for the same reason. The context is as it was, so
no hook is called. -/
structure Refuses (grammar : Grammar Context) (text : String) (rule : Option String)
    (context : Context) (error : ParseError) : Prop where
  parse : grammar.parse text rule context = (.error error, context)
  parseText : grammar.parseText text rule context = (.error error, context)
  accepts : grammar.accepts text rule = .error error
  outline : grammar.outline text rule = .error error
  trace : grammar.trace text rule = .error error

/-- Whether whatever is asked about a text that is cut into some lexemes is answered as an
outcome says. The hooks change the context only where the rule matches. -/
structure Answers (grammar : Grammar Context) (text : String) (rule : Option String)
    (context : Context) (lexemes : List Lexeme) (outcome : ParseOutcome) : Prop where
  parse : (grammar.parse text rule context).1 = .ok outcome
  parseText : grammar.parseText text rule context =
    (.ok outcome.matched, (grammar.parse text rule context).2)
  accepts : grammar.accepts text rule = .ok outcome.isComplete
  outline : ∃ drawn, grammar.outline text rule = .ok drawn ∧ drawn.isSome = outcome.matched
  trace : ∃ lines, grammar.trace text rule = .ok (unlines (lines ++ [outcome.text]))
  lexemes : outcome.lexemes = lexemes.length
  cursor : outcome.cursor ≤ outcome.lexemes
  start : outcome.matched = false → outcome.cursor = 0
  idle : outcome.matched = false → (grammar.parse text rule context).2 = context

def Blank (journal : Option (Array Step)) : Prop := journal = none ∨ journal = some #[]

theorem Refuses.of_recognize {error : ParseError}
    (failed : ∀ watch journal, Blank journal →
      grammar.recognize watch journal text rule = .error error) :
    grammar.Refuses text rule context error := by
  have none := fun watch => failed watch none (.inl rfl)
  have parse : grammar.parse text rule context = (.error error, context) := by
    rw [Grammar.parse, none]
  constructor
  case parse => exact parse
  case parseText =>
    rw [Grammar.parseText, parse]
    rfl
  case accepts => rw [Grammar.accepts, none]
  case outline => rw [Grammar.outline, none]
  case trace => rw [Grammar.trace, failed grammar.watch (some #[]) (.inr rfl)]

theorem recognize_eq_ofOutcome (named : grammar.ruleNamed rule = .ok id)
    (cut : grammar.tokenize text = .ok lexemes) (watch : Watch) (journal : Option (Array Step)) :
    grammar.recognize watch journal text rule =
      Recognition.ofOutcome lexemes.toArray
        ((grammar.recognizer watch lexemes).run id journal) := by
  rw [recognize, named, cut]
  rfl

theorem recognize_eq_ok {watch : Watch} {journal : Option (Array Step)}
    {recognition : Recognition}
    (recognized : grammar.recognize watch journal text rule = .ok recognition) :
    ∃ id lexemes, grammar.ruleNamed rule = .ok id ∧ grammar.tokenize text = .ok lexemes ∧
      recognition.lexemes = lexemes.toArray ∧
      recognition.state = ((grammar.recognizer watch lexemes).run id journal).state := by
  cases named : grammar.ruleNamed rule with
  | error error => simp [recognize, named] at recognized
  | ok id =>
      cases cut : grammar.tokenize text with
      | error error => simp [recognize, named, cut] at recognized
      | ok lexemes =>
          rw [recognize_eq_ofOutcome named cut] at recognized
          refine ⟨id, lexemes, rfl, rfl, ?_⟩
          generalize (grammar.recognizer watch lexemes).run id journal = outcome at recognized ⊢
          obtain ⟨verdict, state⟩ := outcome
          cases verdict with
          | stopped why => cases recognized
          | matched | failed =>
              cases recognized
              exact ⟨rfl, rfl⟩

theorem rule?_of_ruleNamed (some : 0 < grammar.table.size)
    (named : grammar.ruleNamed rule = .ok id) : ∃ known, grammar.table.rule? id = .some known := by
  have bound : id.index < grammar.table.size := by
    cases rule with
    | none =>
        cases named
        exact some
    | some name =>
        rw [ruleNamed] at named
        split at named
        · next found =>
            cases named
            exact RuleTable.index_lt_of_ruleId? found
        · cases named
  exact ⟨_, Array.getElem?_eq_getElem bound⟩

theorem drawn_of_recognize {recognition : Recognition}
    (recognized : grammar.recognize (.all grammar.table) none text rule = .ok recognition)
    (matched : recognition.matched = true) :
    ∃ lines, outlineFrom grammar.table 0 recognition.replay.calls = .ok lines := by
  obtain ⟨id, accepted⟩ := recognize_run recognized matched
  exact Recognizer.run_drawn rfl accepted

theorem printed_of_recognize (closed : grammar.table.Closed) (declares : 0 < grammar.table.size)
    {watch : Watch} {recognition : Recognition}
    (recognized : grammar.recognize watch (some #[]) text rule = .ok recognition) :
    ∃ lines, grammar.table.journalLines (recognition.state.journal.getD #[]) = .ok lines := by
  obtain ⟨id, lexemes, named, cut, -, state⟩ := recognize_eq_ok recognized
  obtain ⟨known, declared⟩ := rule?_of_ruleNamed declares named
  obtain ⟨-, -, traceable⟩ :=
    Recognizer.run_unobserved (r := grammar.recognizer watch lexemes) closed declared
  rw [state]
  exact traceable.printed (Lexicon.labels_of_tokenize cut)

theorem Answers.of_recognize {outcome : ParseOutcome} (closed : grammar.table.Closed)
    (declares : 0 < grammar.table.size)
    (recognized : ∀ watch journal, Blank journal → ∃ recognition,
      grammar.recognize watch journal text rule = .ok recognition ∧
        recognition.outcome = outcome ∧
        (recognition.matched = true → recognition.replay.fault = none))
    (counted : outcome.lexemes = lexemes.length) (inside : outcome.cursor ≤ outcome.lexemes)
    (start : outcome.matched = false → outcome.cursor = 0) :
    grammar.Answers text rule context lexemes outcome := by
  obtain ⟨heard, hearing, rfl, faultless⟩ := recognized grammar.watch none (.inl rfl)
  have parse : (grammar.parse text rule context).1 = .ok heard.outcome := by
    rw [Grammar.parse, hearing]
    dsimp only
    split
    · next matched => rw [faultless matched]
    · rfl
  constructor
  case parse => exact parse
  case parseText =>
    rw [Grammar.parseText]
    dsimp only
    rw [parse]
    rfl
  case accepts =>
    obtain ⟨recognition, found, agrees, -⟩ := recognized .none none (.inl rfl)
    rw [Grammar.accepts, found, ← agrees]
  case outline =>
    obtain ⟨recognition, found, agrees, fine⟩ :=
      recognized (.all grammar.table) none (.inl rfl)
    rw [← agrees, Grammar.outline, found]
    dsimp only
    split
    · next matched =>
        obtain ⟨lines, drawn⟩ := drawn_of_recognize found matched
        rw [drawn, fine matched]
        exact ⟨_, rfl, matched.symm⟩
    · next failed => exact ⟨none, rfl, (eq_false_of_ne_true failed).symm⟩
  case trace =>
    obtain ⟨recognition, found, agrees, -⟩ := recognized grammar.watch (some #[]) (.inr rfl)
    obtain ⟨lines, printed⟩ := printed_of_recognize closed declares found
    rw [← agrees, Grammar.trace, found]
    dsimp only
    rw [printed]
    exact ⟨lines, rfl⟩
  case lexemes => exact counted
  case cursor => exact inside
  case start => exact start
  case idle =>
    intro failed
    have unmatched : ¬heard.matched = true := ne_true_of_eq_false failed
    rw [Grammar.parse, hearing]
    dsimp only
    rw [if_neg unmatched]

theorem run_agrees (closed : grammar.table.Closed) {known : Rule}
    (declared : grammar.table.rule? id = some known) (lexemes : List Lexeme) (watch : Watch)
    {journal : Option (Array Step)} (blank : Blank journal) :
    let one := (grammar.recognizer watch lexemes).run id journal
    let all := (grammar.recognizer (.all grammar.table) lexemes).run id none
    one.verdict = all.verdict ∧ one.state.cursor = all.state.cursor := by
  intro one all
  -- the watch makes no difference, and then noting steps makes none
  have restricted : (grammar.recognizer watch lexemes).run id none =
      all.restrict watch.watches :=
    Recognizer.run_restrict (r := grammar.recognizer (.all grammar.table) lexemes)
      (watch.below_all grammar.table) closed id none
  have quiet : ((grammar.recognizer watch lexemes).run id none).verdict = all.verdict ∧
      ((grammar.recognizer watch lexemes).run id none).state.cursor = all.state.cursor := by
    rw [restricted]
    exact ⟨rfl, rfl⟩
  rcases blank with rfl | rfl
  · exact quiet
  · obtain ⟨verdict, state, -⟩ :=
      Recognizer.run_unobserved (r := grammar.recognizer watch lexemes) closed declared
    rw [verdict, state] at quiet
    exact quiet

theorem answers_of_run (closed : grammar.table.Closed) (declares : 0 < grammar.table.size)
    {known : Rule}
    (declared : grammar.table.rule? id = some known) (named : grammar.ruleNamed rule = .ok id)
    (cut : grammar.tokenize text = .ok lexemes) (context : Context) (matched : Bool)
    (decided : ((grammar.recognizer (.all grammar.table) lexemes).run id none).verdict =
      if matched then .matched else .failed) :
    grammar.Answers text rule context lexemes
      ⟨matched, ((grammar.recognizer (.all grammar.table) lexemes).run id none).state.cursor,
        lexemes.length⟩ := by
  have size : (grammar.recognizer (.all grammar.table) lexemes).lexemes.size = lexemes.length := rfl
  apply Answers.of_recognize closed declares
  case recognized =>
    intro watch journal blank
    obtain ⟨verdict, cursor⟩ := run_agrees closed declared lexemes watch blank
    rw [decided] at verdict
    refine ⟨_, (recognize_eq_ofOutcome named cut watch journal).trans
      (Recognition.ofOutcome_of_decided verdict), ?_, ?_⟩
    · rw [Recognition.outcome, cursor]
      rfl
    · intro accepted
      rw [if_pos accepted] at verdict
      exact (Recognizer.run_of_matched verdict).2
  case counted => rfl
  case inside =>
    cases matched with
    | true => exact (Recognizer.run_of_matched decided).1
    | false => exact Nat.le_trans (Nat.le_of_eq (Recognizer.run_of_failed decided)) (Nat.zero_le _)
  case start =>
    intro rejected
    rw [if_neg (ne_true_of_eq_false rejected)] at decided
    exact Recognizer.run_of_failed decided

end Grammar

end TextGrammar
