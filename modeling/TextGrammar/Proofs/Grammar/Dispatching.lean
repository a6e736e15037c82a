import TextGrammar.Proofs.Grammar.Hooking
import TextGrammar.Proofs.Grammar.Independence
import TextGrammar.Proofs.Replay.Census

/-!
When a hook is called. A match records what has a hook, and what it recorded is replayed: every
event is a call of the hook of its token, or two of the hook of its rule, and there are no other
calls. So with the hooks that are bound last, no event is dropped and none is told twice.
-/

namespace TextGrammar

variable {Context : Type}

/-- What the hooks are told of an event: where a rule begins and where it ends, or the text of the
lexeme where a token begins. -/
def Event.notices (lexemes : Array Lexeme) (event : Event) : List Notice :=
  match event.subject with
  | .rule id => [.rule id .enter event, .rule id .leave event]
  | .token id => lexemes[event.start]?.toList.map fun lexeme =>
      .token id (String.ofList lexeme.text) event

theorem Event.filterMap_notice?_calls {lexemes : Array Lexeme} {event : Event}
    (matched : ∀ id, event.subject = .token id →
      ∃ lexeme, lexemes[event.start]? = some lexeme ∧ lexeme.id = id) :
    (event.calls lexemes).filterMap Call.notice? = event.notices lexemes := by
  unfold calls notices
  cases subject : event.subject with
  | rule id => simp [Call.notice?, ruleId?, subject]
  | token id =>
      obtain ⟨lexeme, here, rfl⟩ := matched id subject
      simp [here, Call.notice?]

theorem Event.subject_of_mem_notices {lexemes : Array Lexeme} {event : Event} {notice : Notice}
    (member : notice ∈ event.notices lexemes) : notice.subject = event.subject := by
  unfold notices at member
  split at member
  · next id subject =>
      rw [subject]
      rcases List.mem_pair.mp member with rfl | rfl
      · rfl
      · rfl
  · next id subject =>
      obtain ⟨lexeme, -, rfl⟩ := List.mem_map.mp member
      exact subject.symm

/-- Whether every match of a grammar is replayed into its hooks: a rule that was recorded is a call
of its hook where it begins and one where it ends, and a token a call of its hook, with the text of
the lexeme that it was matched to. All that was recorded has a hook, and no other call is made. -/
def Grammar.CallsHooks (grammar : Grammar Context) : Prop :=
  ∀ text rule context recognition,
    grammar.recognize grammar.watch none text rule = .ok recognition →
    recognition.matched = true →
    ∃ notices : List Notice,
      grammar.parse text rule context =
        (.ok recognition.outcome, notices.foldl grammar.tell context) ∧
      notices.Perm
        (recognition.state.trail.events.toList.flatMap (Event.notices recognition.lexemes)) ∧
      (∀ notice ∈ notices, grammar.hears notice.subject = true) ∧
      ∀ event ∈ recognition.state.trail.events.toList, ∀ id, event.subject = .token id →
        ∃ lexeme, recognition.lexemes[event.start]? = some lexeme ∧ lexeme.id = id

theorem Grammar.InStep.callsHooks {grammar : Grammar Context} (inStep : grammar.InStep) :
    grammar.CallsHooks := by
  intro text rule context recognition recognized matched
  obtain ⟨id, accepted⟩ := recognize_run recognized matched
  obtain ⟨forest, found, listed⟩ := Recognizer.run_finds accepted
  have faithful : forest.Faithful grammar.watch recognition.lexemes 0 recognition.state.cursor :=
    found.faithful
  have lexeme := faithful.lexeme
  rw [← listed] at lexeme
  have called := (Recognizer.run_calls_perm accepted).filterMap Call.notice?
  have told : (recognition.state.trail.events.toList.flatMap
      (Event.calls recognition.lexemes)).filterMap Call.notice? =
        recognition.state.trail.events.toList.flatMap (Event.notices recognition.lexemes) := by
    rw [List.filterMap_flatMap]
    apply List.flatMap_congr
    intro event member
    exact Event.filterMap_notice?_calls (lexeme event member)
  rw [told] at called
  refine ⟨_, ?_, called, ?_, lexeme⟩
  · have replayed : recognition.replay.fault = none := (Recognizer.run_cues accepted).1
    rw [parse, recognized]
    dsimp only
    rw [if_pos matched, replayed]
    dsimp only
    rw [foldl_invoke]
    rfl
  · intro notice member
    obtain ⟨event, recorded, heard⟩ := List.mem_flatMap.mp (called.subset member)
    rw [Event.subject_of_mem_notices heard, ← inStep.watched]
    exact faithful.watched event (listed ▸ recorded)

/-- Hooks, what is watched for them, and the calls of them go together. A declaration that is in
order but for its hooks is refused if and only if a hook on a rule is bound to what is only a token
or a hook on a token to what is a rule, and the first such hook is reported, those on rules before
those on tokens. Of a grammar that is built, each rule and token has the hook that was bound to it
last; what has a hook is watched, and whatever is recorded of a match is called for. -/
theorem Declaration.build_hooks {declaration : Declaration Context} {engine : Engine}
    {lexicon : Lexicon} {table : RuleTable} (inOrder : declaration.InOrder engine lexicon table) :
    (∀ error, declaration.build engine = .error error ↔ declaration.misbinding? = some error) ∧
    ((∃ error, declaration.build engine = .error error) ↔
      (∃ hook ∈ declaration.ruleHooks,
        hook.1 ∉ declaration.rules.map (·.1) ∧ hook.1 ∈ declaration.tokens.map (·.1)) ∨
      ∃ hook ∈ declaration.tokenHooks, hook.1 ∈ declaration.rules.map (·.1)) ∧
    ∀ grammar, declaration.build engine = .ok grammar →
      grammar.table = table ∧ declaration.Hooked grammar ∧ grammar.CallsHooks := by
  refine ⟨inOrder.build_eq_error_iff, ?_, ?_⟩
  · rw [← exists_misbinding_iff]
    exact exists_congr inOrder.build_eq_error_iff
  · intro grammar builds
    obtain ⟨known, built⟩ := Declaration.built builds
    have lexicons : known = lexicon := Except.ok.inj (built.defined.symm.trans inOrder.defined)
    have tables : grammar.table = table :=
      Except.ok.inj (built.made.symm.trans (lexicons ▸ inOrder.made))
    exact ⟨tables, inOrder.hooked builds, built.inStep.callsHooks⟩

/-- A list whose hooks write down what they are told. Two are bound to its tail, and one to a name
that means nothing. -/
def writing (tokenHooks : List String) : Declaration (List String) where
  tokens := [("A", "a"), ("B", "b"), ("list", "c")]
  rules := [("list", "A tail"), ("tail", "B*")]
  ignore := []
  ruleHooks := [("tail", fun _ _ words => words ++ ["first"]), ("head", fun _ _ words => words),
    ("tail", fun side _ words => words ++ [if side = .enter then "enter" else "leave"])]
  tokenHooks := tokenHooks.map fun name => (name, fun text _ words => words ++ [text])
  limits := ⟨100, 10⟩

/-- The second hook on the tail is called for it, and the first is not. The token that has the name
of the list cannot be given a hook. -/
theorem Declaration.build_hooks_writing :
    (∃ grammar, (writing ["A"]).build .plain = .ok grammar ∧
      (grammar.parse "ab" none []).2 = ["a", "enter", "leave"] ∧
      grammar.ruleHook? ⟨1⟩ = lastBound? (· = "tail") (writing ["A"]).ruleHooks ∧
      grammar.CallsHooks) ∧
    (writing ["A", "list"]).build .plain = .error (.hookKind "list" .token .rule) := by
  obtain ⟨grammar, builds, small, tail, wrote⟩ : ∃ grammar,
      (writing ["A"]).build .plain = .ok grammar ∧ grammar.table.size = 2 ∧
        (grammar.table.rule? ⟨1⟩).map (·.name) = some "tail" ∧
        (grammar.parse "ab" none []).2 = ["a", "enter", "leave"] :=
    ⟨_, by cbv, by cbv, by cbv, by cbv⟩
  obtain ⟨lexicon, built⟩ := Declaration.built builds
  have inOrder : ∀ tokenHooks, (writing tokenHooks).InOrder .plain lexicon grammar.table := by
    intro tokenHooks
    refine ⟨built.defined, ?_, built.made⟩
    intro name ignored
    cases ignored
  obtain ⟨-, hooked, calls⟩ := (build_hooks (inOrder ["A"])).2.2 grammar builds
  obtain ⟨rule, declared, named⟩ := Option.map_eq_some_iff.mp tail
  refine ⟨⟨grammar, builds, wrote, ?_, calls⟩, ?_⟩
  · rw [hooked.namedRule (by rw [small]; decide) ⟨1⟩ rule declared, named]
  · exact ((build_hooks (inOrder ["A", "list"])).1 _).mpr rfl

end TextGrammar
