import TextGrammar.Grammar.Parse
import TextGrammar.Proofs.Grammar.Binding
import TextGrammar.Proofs.Replay.Selection

/-!
The calls of a parse. Whatever hooks a grammar has, the match that it replays is one part of
the match that records everything, and its hooks are called for their part of the calls that
this one is replayed as.
-/

namespace TextGrammar

def Recognition.restrict (kept : Subject → Bool) (recognition : Recognition) : Recognition :=
  { recognition with state := recognition.state.restrict kept }

theorem token_mem_replayFrom {lexemes : Array Lexeme} {events : List Event}
    {nest : List OpenRule} {event : Event} {lexeme : Lexeme}
    (called : .token event lexeme ∈ (replayFrom lexemes nest events).calls) :
    event ∈ events ∧ (∃ id, event.subject = .token id) ∧
      lexemes[event.start]? = some lexeme := by
  induction events generalizing nest with
  | nil => simp [replayFrom] at called
  | cons first rest ih =>
      have later : ∀ {nest}, .token event lexeme ∈ (replayFrom lexemes nest rest).calls →
          event ∈ first :: rest ∧ (∃ id, event.subject = .token id) ∧
            lexemes[event.start]? = some lexeme := fun called =>
        ⟨List.mem_cons_of_mem first (ih called).1, (ih called).2⟩
      rw [replayFrom] at called
      cases subject : first.subject with
      | rule id =>
          cases closed : first.stop with
          | none => simp [subject, closed] at called
          | some stop =>
              simp only [subject, closed, Replay.calls_after] at called
              exact later (by simpa using called)
      | token id =>
          cases found : lexemes[first.start]? with
          | none => simp [subject, found] at called
          | some here =>
              simp only [subject, found, Replay.calls_after] at called
              rcases List.mem_append.mp called with due | behind
              · obtain ⟨rfl, rfl⟩ : event = first ∧ lexeme = here := by simpa using due
                exact ⟨List.mem_cons_self, ⟨id, subject⟩, found⟩
              · exact later behind

namespace Grammar

variable {Context Other : Type} {grammar : Grammar Context}

theorem recognize_congr {other : Grammar Other} (table : grammar.table = other.table)
    (ignore : grammar.ignore = other.ignore) (limits : grammar.limits = other.limits)
    (watch : Watch) (journal : Option (Array Step)) (text : String) (rule : Option String) :
    grammar.recognize watch journal text rule = other.recognize watch journal text rule := by
  simp only [recognize, ruleNamed, tokenize, table, ignore, limits]

theorem recognize_restrict (closed : grammar.table.Closed) (watch : Watch)
    (journal : Option (Array Step)) (text : String) (rule : Option String) :
    grammar.recognize watch journal text rule =
      (grammar.recognize (.all grammar.table) journal text rule).map
        (·.restrict watch.watches) := by
  unfold recognize
  cases grammar.ruleNamed rule with
  | error error => rfl
  | ok id =>
      cases grammar.tokenize text with
      | error error => rfl
      | ok lexemes =>
          have same := Recognizer.run_restrict
            (r := ⟨grammar.table, .all grammar.table, grammar.limits, lexemes.toArray⟩)
            (watch.below_all grammar.table) closed id journal
          rw [Recognizer.under] at same
          dsimp only
          rw [same]
          rcases Recognizer.run _ id journal with ⟨verdict, after⟩
          cases verdict <;> rfl

theorem recognize_run {watch : Watch} {journal : Option (Array Step)} {text : String}
    {rule : Option String} {recognition : Recognition}
    (recognized : grammar.recognize watch journal text rule = .ok recognition)
    (matched : recognition.matched = true) :
    ∃ id, Recognizer.run ⟨grammar.table, watch, grammar.limits, recognition.lexemes⟩ id journal =
      ⟨.matched, recognition.state⟩ := by
  unfold recognize at recognized
  split at recognized
  · cases recognized
  · next id _ =>
      split at recognized
      · cases recognized
      · dsimp only at recognized
        split at recognized
        · next ran =>
            cases recognized
            exact ⟨id, ran⟩
        · cases recognized
          cases matched
        · cases recognized

def matchCalls (grammar : Grammar Context) (text : String) (rule : Option String) : List Call :=
  match grammar.recognize (.all grammar.table) none text rule with
  | .error _ => []
  | .ok recognition => if recognition.matched then recognition.replay.calls else []

theorem parse_eq (closed : grammar.table.Closed) (inStep : grammar.InStep)
    (text : String) (rule : Option String) (context : Context) :
    grammar.parse text rule context =
      ((grammar.recognize (.all grammar.table) none text rule).map (·.outcome),
        ((grammar.matchCalls text rule).filter fun call => grammar.hears call.subject).foldl
          grammar.invoke context) := by
  unfold parse matchCalls
  rw [recognize_restrict closed]
  cases recognized : grammar.recognize (.all grammar.table) none text rule with
  | error error => rfl
  | ok recognition =>
      simp only [Except.map, Recognition.restrict]
      split
      · next matched =>
          obtain ⟨id, accepted⟩ := recognize_run recognized matched
          have calls := Recognizer.run_replay_restrict accepted grammar.watch.watches
          have heard : grammar.watch.watches = grammar.hears := funext inStep.watched
          simp only [Recognition.replay, Progress.restrict]
          rw [calls, heard]
          rfl
      · rfl

end Grammar

end TextGrammar
