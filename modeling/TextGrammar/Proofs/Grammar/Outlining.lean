import TextGrammar.Proofs.Grammar.Agreement

/-!
What an outline shows. It has a line for each event of the match that records everything, indented
for the rules that the event was matched in, as far as they end behind where it begins. So each
lexeme that was taken is shown once, where it was matched.
-/

namespace TextGrammar

namespace Grammar

variable {Context : Type} {grammar : Grammar Context} {text : String} {rule : Option String}

theorem outline_eq_some {shown : String} (drawn : grammar.outline text rule = .ok (some shown)) :
    ∃ id lexemes after, grammar.ruleNamed rule = .ok id ∧ grammar.tokenize text = .ok lexemes ∧
      (grammar.recognizer (.all grammar.table) lexemes).run id none = ⟨.matched, after⟩ ∧
      ∃ lines, outlineFrom grammar.table 0 (after.trail.replay lexemes.toArray).calls = .ok lines ∧
        shown = unlines lines := by
  cases named : grammar.ruleNamed rule with
  | error error => simp [outline, recognize, named] at drawn
  | ok id =>
      cases cut : grammar.tokenize text with
      | error error => simp [outline, recognize, named, cut] at drawn
      | ok lexemes =>
          rw [outline, recognize_eq_ofOutcome named cut] at drawn
          rcases ran : (grammar.recognizer (.all grammar.table) lexemes).run id none with
            ⟨verdict, after⟩
          rw [ran] at drawn
          cases verdict with
          | stopped why => cases drawn
          | failed => cases drawn
          | matched =>
              refine ⟨id, lexemes, after, rfl, rfl, ran, ?_⟩
              dsimp only [Recognition.ofOutcome] at drawn
              rw [if_pos rfl, Recognition.replay] at drawn
              split at drawn
              · cases drawn
              · cases drawn
              · next lines drawn _ =>
                  cases drawn
                  exact ⟨lines, drawn, rfl⟩

/-- Of a grammar that was built, the outline of a text is the lines for the match that records
everything, a line break behind each. They show the lexemes that a parse takes. While they are
drawn, no rule is left that was not entered, and in the end none is open. -/
theorem outline_shows {declaration : Declaration Context} {engine : Engine}
    (builds : declaration.build engine = .ok grammar) {shown : String}
    (drawn : grammar.outline text rule = .ok (some shown)) (context : Context) :
    ∃ id lexemes after forest lines, grammar.ruleNamed rule = .ok id ∧
      grammar.tokenize text = .ok lexemes ∧
      (grammar.recognizer (.all grammar.table) lexemes).run id none = ⟨.matched, after⟩ ∧
      (grammar.recognizer (.all grammar.table) lexemes).Finds (.one (.rule id)) 0
        (.matched after.cursor forest) ∧
      after.trail.events.toList = forest.events ∧
      (grammar.parse text rule context).1 = .ok ⟨true, after.cursor, lexemes.length⟩ ∧
      shown = unlines lines ∧ Outlines grammar.table lexemes after.cursor forest lines ∧
      depthBehind 0 (after.trail.replay lexemes.toArray).calls = some 0 := by
  obtain ⟨id, lexemes, after, named, cut, accepted, lines, shows, rfl⟩ := outline_eq_some drawn
  obtain ⟨lexicon, built⟩ := Declaration.built builds
  have made := RuleTable.made_of_ofRules built.made
  obtain ⟨declared, present⟩ := rule?_of_ruleNamed made.size_pos named
  have answers := answers_of_run (RuleTable.ofRules_closed built.made) made.size_pos present named
    cut context true (congrArg Outcome.verdict accepted)
  rw [accepted] at answers
  obtain ⟨forest, found, listed⟩ := Recognizer.run_finds accepted
  have faithful : forest.Faithful (.all grammar.table) lexemes.toArray 0 after.cursor :=
    found.faithful
  obtain ⟨others, told, outlines, level⟩ := faithful.outlines (Lexicon.labels_of_tokenize cut)
  rw [← listed] at told level
  obtain rfl : lines = others := Except.ok.inj (shows.symm.trans told)
  exact ⟨id, lexemes, after, forest, lines, named, cut, accepted, found, listed, answers.parse, rfl,
    outlines, level⟩

theorem outline_shows_counting :
    ∃ grammar lexemes forest lines, (counting ["tail"] ["A"]).build .plain = .ok grammar ∧
      grammar.tokenize "abb" = .ok lexemes ∧
      unlines lines = "list\n  A \"a\"\n  tail\n    B \"b\"\n    B \"b\"\n" ∧
      Outlines grammar.table lexemes 3 forest lines := by
  obtain ⟨grammar, builds, drawn, parse⟩ :
      ∃ grammar, (counting ["tail"] ["A"]).build .plain = .ok grammar ∧
        grammar.outline "abb" none =
          .ok (some "list\n  A \"a\"\n  tail\n    B \"b\"\n    B \"b\"\n") ∧
        (grammar.parse "abb" none 0).1 = .ok ⟨true, 3, 3⟩ := ⟨_, by cbv, by cbv, by cbv⟩
  obtain ⟨id, lexemes, after, forest, lines, -, cut, -, -, -, parsed, shown, outlines, -⟩ :=
    outline_shows builds drawn 0
  -- the outcome of the parse says how far the match came
  have same := parse.symm.trans parsed
  simp only [Except.ok.injEq, ParseOutcome.mk.injEq, true_and] at same
  rw [← same.1] at outlines
  exact ⟨grammar, lexemes, forest, lines, builds, cut, shown.symm, outlines⟩

end Grammar

end TextGrammar
