import TextGrammar.Proofs.Grammar.Calls

/-!
Hooks do not see one another. What the hooks of some rules and tokens are told during a
parse is the same sequence, whatever hooks the other rules and tokens have. To tell what they
are told, their hooks are made to log it.
-/

namespace TextGrammar

inductive Notice where
  | rule (id : RuleId) (side : Visit) (event : Event)
  | token (id : TokenId) (text : String) (event : Event)
  deriving DecidableEq, Repr

def Notice.subject : Notice → Subject
  | .rule id _ _ => .rule id
  | .token id _ _ => .token id

namespace Call

def notice? : Call → Option Notice
  | .enter event => event.ruleId?.map (.rule · .enter event)
  | .leave event => event.ruleId?.map (.rule · .leave event)
  | .token event lexeme => some (.token lexeme.id (String.ofList lexeme.text) event)

def Apt (call : Call) : Prop := ∀ notice, call.notice? = some notice → notice.subject = call.subject

theorem filterMap_notice {calls : List Call} (apt : ∀ call ∈ calls, call.Apt)
    (kept : Subject → Bool) :
    (calls.filter fun call => kept call.subject).filterMap notice? =
      (calls.filterMap notice?).filter fun notice => kept notice.subject := by
  rw [List.filterMap_filter, List.filter_filterMap]
  apply List.filterMap_congr
  intro call member
  cases told : call.notice? with
  | none => simp
  | some notice =>
      rw [← apt call member notice told]
      rfl

end Call

theorem Event.subject_of_ruleId? {event : Event} {id : RuleId} (about : event.ruleId? = some id) :
    event.subject = .rule id := by
  unfold ruleId? at about
  split at about
  · next subject =>
      cases about
      exact subject
  · cases about

theorem Recognizer.run_calls_apt {r : Recognizer} {id : RuleId} {journal : Option (Array Step)}
    {after : Progress} (accepted : r.run id journal = ⟨.matched, after⟩) :
    ∀ call ∈ (after.trail.replay r.lexemes).calls, call.Apt := by
  obtain ⟨forest, found, listed⟩ := run_finds accepted
  have faithful : forest.Faithful r.watch r.lexemes 0 after.cursor := found.faithful
  rintro (event | event | ⟨event, lexeme⟩) called notice told
  · obtain ⟨rule, about, rfl⟩ := Option.map_eq_some_iff.mp told
    exact (Event.subject_of_ruleId? about).symm
  · obtain ⟨rule, about, rfl⟩ := Option.map_eq_some_iff.mp told
    exact (Event.subject_of_ruleId? about).symm
  · -- the lexeme is the one that was tested for the token of the event
    rw [Trail.replay, listed] at called
    obtain ⟨member, ⟨token, subject⟩, here⟩ := token_mem_replayFrom called
    obtain ⟨same, there, about⟩ := faithful.lexeme event member token subject
    rw [here] at there
    cases there
    cases told
    rw [Notice.subject, about]
    exact subject.symm

namespace Grammar

variable {Context Other : Type} {grammar : Grammar Context} {chosen : Subject → Bool}

def tell (grammar : Grammar Context) (context : Context) : Notice → Context
  | .rule id side event => (grammar.ruleHook? id).elim context (· side event context)
  | .token id text event => (grammar.tokenHook? id).elim context (· text event context)

theorem invoke_eq_tell (context : Context) (call : Call) :
    grammar.invoke context call = call.notice?.elim context (grammar.tell context) := by
  have visited : ∀ side event, invoke.visit grammar context side event =
      (event.ruleId?.map (Notice.rule · side event)).elim context (grammar.tell context) := by
    intro side event
    unfold invoke.visit
    cases event.ruleId? with
    | none => rfl
    | some id =>
        simp only [Option.map_some, Option.elim_some, tell, ruleHook?]
        rcases grammar.ruleHooks[id.index]? with _ | _ | hook <;> rfl
  cases call with
  | enter event => exact visited .enter event
  | leave event => exact visited .leave event
  | token event lexeme =>
      simp only [invoke, Call.notice?, Option.elim_some, tell, tokenHook?]
      rcases grammar.tokenHooks[lexeme.id.index]? with _ | _ | hook <;> rfl

theorem foldl_invoke (context : Context) (calls : List Call) :
    calls.foldl grammar.invoke context =
      (calls.filterMap Call.notice?).foldl grammar.tell context := by
  induction calls generalizing context with
  | nil => rfl
  | cons call rest ih =>
      rw [List.foldl_cons, invoke_eq_tell, ih]
      cases told : call.notice? with
      | none => rw [List.filterMap_cons_none told]; rfl
      | some notice => rw [List.filterMap_cons_some told]; rfl

/-- The grammar whose hooks on the chosen rules and tokens also log what they are told. -/
def logged (grammar : Grammar Context) (chosen : Subject → Bool) :
    Grammar (Context × List Notice) where
  table := grammar.table
  ignore := grammar.ignore
  watch := grammar.watch
  ruleHooks := grammar.ruleHooks.mapIdx fun index hook? => hook?.map fun hook side event state =>
    (hook side event state.1, log state.2 (.rule (.ofIndex index) side event))
  tokenHooks := grammar.tokenHooks.mapIdx fun index hook? => hook?.map fun hook text event state =>
    (hook text event state.1, log state.2 (.token (.ofIndex index) text event))
  limits := grammar.limits
where
  log (before : List Notice) (notice : Notice) : List Notice :=
    if chosen notice.subject then before ++ [notice] else before

theorem logged_ruleHook? (id : RuleId) :
    (grammar.logged chosen).ruleHook? id = (grammar.ruleHook? id).map fun hook side event state =>
      (hook side event state.1, logged.log chosen state.2 (.rule id side event)) := by
  have same : RuleId.ofIndex id.index = id := by simp [RuleId.ofIndex, RuleId.index]
  simp only [ruleHook?, logged, Array.getElem?_mapIdx, same]
  rcases grammar.ruleHooks[id.index]? with _ | _ | hook <;> rfl

theorem logged_tokenHook? (id : TokenId) :
    (grammar.logged chosen).tokenHook? id =
      (grammar.tokenHook? id).map fun hook text event state =>
        (hook text event state.1, logged.log chosen state.2 (.token id text event)) := by
  have same : TokenId.ofIndex id.index = id := by simp [TokenId.ofIndex, TokenId.index]
  simp only [tokenHook?, logged, Array.getElem?_mapIdx, same]
  rcases grammar.tokenHooks[id.index]? with _ | _ | hook <;> rfl

theorem logged_hears : (grammar.logged chosen).hears = grammar.hears := by
  funext subject
  cases subject with
  | rule id => simp [hears, logged_ruleHook?]
  | token id => simp [hears, logged_tokenHook?]

theorem InStep.logged (inStep : grammar.InStep) (chosen : Subject → Bool) :
    (grammar.logged chosen).InStep where
  rulePlaces := Array.size_mapIdx.trans inStep.rulePlaces
  tokenPlaces := Array.size_mapIdx.trans inStep.tokenPlaces
  watched subject := (inStep.watched subject).trans (congrFun logged_hears subject).symm

theorem logged_tell {notice : Notice} (heard : grammar.hears notice.subject = true)
    (state : Context × List Notice) :
    (grammar.logged chosen).tell state notice =
      (grammar.tell state.1 notice, logged.log chosen state.2 notice) := by
  cases notice with
  | rule id side event =>
      obtain ⟨hook, bound⟩ := Option.isSome_iff_exists.mp heard
      simp [tell, logged_ruleHook?, bound]
  | token id text event =>
      obtain ⟨hook, bound⟩ := Option.isSome_iff_exists.mp heard
      simp [tell, logged_tokenHook?, bound]

theorem logged_foldl {notices : List Notice}
    (heard : ∀ notice ∈ notices, grammar.hears notice.subject = true)
    (state : Context × List Notice) :
    notices.foldl (grammar.logged chosen).tell state =
      (notices.foldl grammar.tell state.1,
        state.2 ++ notices.filter fun notice => chosen notice.subject) := by
  induction notices generalizing state with
  | nil => simp
  | cons notice rest ih =>
      rw [List.foldl_cons, logged_tell (heard notice List.mem_cons_self),
        ih fun later there => heard later (List.mem_cons_of_mem notice there)]
      unfold logged.log
      by_cases told : chosen notice.subject = true <;> simp [told]

theorem matchCalls_apt (text : String) (rule : Option String) :
    ∀ call ∈ grammar.matchCalls text rule, call.Apt := by
  unfold matchCalls
  split
  · exact List.forall_mem_nil _
  · next recognition recognized =>
      split
      · next matched =>
          obtain ⟨id, accepted⟩ := recognize_run recognized matched
          exact Recognizer.run_calls_apt accepted
      · exact List.forall_mem_nil _

/-- What a parse comes to where the chosen hooks, all of them bound, log what they are told:
what it comes to anyway, and their notices among those for all calls of the match. -/
theorem parse_logged (closed : grammar.table.Closed) (inStep : grammar.InStep)
    (bound : ∀ subject, chosen subject = true → grammar.hears subject = true)
    (text : String) (rule : Option String) (state : Context × List Notice) :
    (grammar.logged chosen).parse text rule state =
      ((grammar.parse text rule state.1).1, (grammar.parse text rule state.1).2,
        state.2 ++ ((grammar.matchCalls text rule).filterMap Call.notice?).filter
          fun notice => chosen notice.subject) := by
  have closedToo : (grammar.logged chosen).table.Closed := closed
  have recognized : (grammar.logged chosen).recognize (.all (grammar.logged chosen).table) none
      text rule = grammar.recognize (.all grammar.table) none text rule :=
    recognize_congr rfl rfl rfl _ _ _ _
  have calls : (grammar.logged chosen).matchCalls text rule = grammar.matchCalls text rule := by
    rw [matchCalls, matchCalls, recognized]
  have heard : ∀ notice ∈ ((grammar.matchCalls text rule).filterMap Call.notice?).filter
      (fun notice => grammar.hears notice.subject), grammar.hears notice.subject = true :=
    fun notice member => (List.mem_filter.mp member).2
  -- the calls are for what is heard, and all of the chosen hooks are
  have chosenHeard : ∀ subject, (chosen subject && grammar.hears subject) = chosen subject := by
    intro subject
    cases told : chosen subject with
    | false => rfl
    | true => rw [bound subject told]; rfl
  rw [parse_eq closedToo (inStep.logged chosen), parse_eq closed inStep, recognized]
  simp only [calls, logged_hears, foldl_invoke, Call.filterMap_notice (matchCalls_apt text rule),
    logged_foldl heard, List.filter_filter, chosenHeard]

/-- How a parse ends, and what it tells the chosen hooks, in order. -/
def told (grammar : Grammar Context) (chosen : Subject → Bool) (text : String)
    (rule : Option String) (context : Context) : Except ParseError ParseOutcome × List Notice :=
  let result := (grammar.logged chosen).parse text rule (context, [])
  (result.1, result.2.2)

end Grammar

/-- Whether two declarations differ in nothing but their hooks. -/
structure Declaration.Rehooks {Context Other : Type} (declaration : Declaration Context)
    (other : Declaration Other) : Prop where
  tokens : declaration.tokens = other.tokens
  rules : declaration.rules = other.rules
  ignore : declaration.ignore = other.ignore
  limits : declaration.limits = other.limits

theorem Declaration.Rehooks.recognize {Context Other : Type} {declaration : Declaration Context}
    {varied : Declaration Other} (rehooks : declaration.Rehooks varied)
    {grammar : Grammar Context} {other : Grammar Other}
    {engine : Engine} {lexicon known : Lexicon} (built : declaration.Built engine lexicon grammar)
    (builtToo : varied.Built engine known other) (text : String) (rule : Option String) :
    grammar.recognize (.all grammar.table) none text rule =
      other.recognize (.all other.table) none text rule := by
  have lexicons : lexicon = known :=
    Except.ok.inj (built.defined.symm.trans (rehooks.tokens ▸ builtToo.defined))
  have tables : grammar.table = other.table := by
    have made := built.made
    rw [lexicons, rehooks.rules, builtToo.made] at made
    exact (Except.ok.inj made).symm
  rw [tables]
  exact Grammar.recognize_congr tables
    (built.ignore.trans (rehooks.ignore.trans builtToo.ignore.symm))
    (built.limits.trans (rehooks.limits.trans builtToo.limits.symm)) _ _ _ _

/-- The calls for some events of an accepted match are the same, in the same order, whether
or not the other events are recorded. So where two grammars differ only in their hooks, the
hooks of rules and tokens that have one in both are told the same, and in the same order. -/
theorem Grammar.calls_independent :
    (∀ (r : Recognizer) (id : RuleId) (journal : Option (Array Step)) (after : Progress),
      r.run id journal = ⟨.matched, after⟩ → ∀ kept : Subject → Bool,
        (after.trail.restrict kept).replay r.lexemes =
          ⟨(after.trail.replay r.lexemes).calls.filter fun call => kept call.subject, none⟩) ∧
    ∀ (engine : Engine) (Context Other : Type) (declaration : Declaration Context)
      (varied : Declaration Other) (grammar : Grammar Context) (other : Grammar Other),
      declaration.build engine = .ok grammar → varied.build engine = .ok other →
      declaration.Rehooks varied →
      ∀ chosen : Subject → Bool,
        (∀ subject, chosen subject = true →
          grammar.hears subject = true ∧ other.hears subject = true) →
        ∀ (text : String) (rule : Option String) (context : Context) (fresh : Other),
          grammar.told chosen text rule context = other.told chosen text rule fresh := by
  refine ⟨fun r id journal after accepted kept => Recognizer.run_replay_restrict accepted kept, ?_⟩
  intro engine Context Other declaration varied grammar other builds buildsToo rehooks chosen bound
    text rule context fresh
  obtain ⟨lexicon, built⟩ := Declaration.built builds
  obtain ⟨known, builtToo⟩ := Declaration.built buildsToo
  have hears : ∀ subject, chosen subject = true → grammar.hears subject = true :=
    fun subject told => (bound subject told).1
  have hearsToo : ∀ subject, chosen subject = true → other.hears subject = true :=
    fun subject told => (bound subject told).2
  have closed := RuleTable.ofRules_closed built.made
  have closedToo := RuleTable.ofRules_closed builtToo.made
  have recognized := rehooks.recognize built builtToo text rule
  have calls : grammar.matchCalls text rule = other.matchCalls text rule := by
    rw [matchCalls, matchCalls, recognized]
  rw [told, told, parse_logged closed built.inStep hears,
    parse_logged closedToo builtToo.inStep hearsToo, parse_eq closed built.inStep,
    parse_eq closedToo builtToo.inStep, recognized, calls]

def counting (rules tokens : List String) : Declaration Nat where
  tokens := [("A", "a"), ("B", "b")]
  rules := [("list", "A tail"), ("tail", "B*")]
  ignore := []
  ruleHooks := rules.map fun name => (name, fun _ _ count => count + 1)
  tokenHooks := tokens.map fun name => (name, fun _ _ count => count + 1)
  limits := ⟨100, 10⟩

theorem Grammar.calls_independent_counting :
    (let after := (Recognizer.listing.run ⟨0⟩ none).state
      let items := fun subject => decide (subject = .rule ⟨1⟩)
      (after.trail.restrict items).replay Recognizer.listing.lexemes =
        ⟨(after.trail.replay Recognizer.listing.lexemes).calls.filter
          fun call => items call.subject, none⟩) ∧
    ∃ grammar other, (counting ["tail"] []).build .plain = .ok grammar ∧
      (counting ["list", "tail"] ["A"]).build .plain = .ok other ∧
      let tail := fun subject => decide (subject = .rule ⟨1⟩)
      grammar.told tail "ab" none 0 = (.ok ⟨true, 2, 2⟩,
        [.rule ⟨1⟩ .enter ⟨.rule ⟨1⟩, 1, some 2⟩, .rule ⟨1⟩ .leave ⟨.rule ⟨1⟩, 1, some 2⟩]) ∧
      grammar.told tail "ab" none 0 = other.told tail "ab" none 0 := by
  have accepted : Recognizer.listing.run ⟨0⟩ none =
      ⟨.matched, (Recognizer.listing.run ⟨0⟩ none).state⟩ := by decide +kernel
  refine ⟨calls_independent.1 _ _ _ _ accepted _, ?_⟩
  obtain ⟨grammar, other, builds, buildsToo, heard, heardToo, told⟩ :
      ∃ grammar other, (counting ["tail"] []).build .plain = .ok grammar ∧
        (counting ["list", "tail"] ["A"]).build .plain = .ok other ∧
        grammar.hears (.rule ⟨1⟩) = true ∧ other.hears (.rule ⟨1⟩) = true ∧
        grammar.told (fun subject => decide (subject = .rule ⟨1⟩)) "ab" none 0 =
          (.ok ⟨true, 2, 2⟩, [.rule ⟨1⟩ .enter ⟨.rule ⟨1⟩, 1, some 2⟩,
            .rule ⟨1⟩ .leave ⟨.rule ⟨1⟩, 1, some 2⟩]) :=
    ⟨_, _, by cbv, by cbv, by cbv, by cbv, by cbv⟩
  refine ⟨grammar, other, builds, buildsToo, told, ?_⟩
  refine calls_independent.2 _ _ _ _ _ _ _ builds buildsToo ⟨rfl, rfl, rfl, rfl⟩ _ ?_ _ _ _ _
  intro subject chosen
  obtain rfl := of_decide_eq_true chosen
  exact ⟨heard, heardToo⟩

end TextGrammar
