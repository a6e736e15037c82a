import TextGrammar.Proofs.Grammar.Binding
import TextGrammar.Proofs.Rules.Compilation

/-!
Which hook a rule or token gets. Hooks are bound one after the other, those on rules before those
on tokens. The first one that is bound to something of the other kind is reported, and where there
is none each rule and token has the hook that was bound to it last.
-/

namespace TextGrammar

variable {Context Hook : Type}

def lastBound? (chosen : String → Bool) (bindings : List (String × Hook)) : Option Hook :=
  (bindings.reverse.find? fun binding => chosen binding.1).map (·.2)

theorem lastBound?_cons (chosen : String → Bool) (binding : String × Hook)
    (rest : List (String × Hook)) :
    lastBound? chosen (binding :: rest) =
      (lastBound? chosen rest).or (if chosen binding.1 then some binding.2 else none) := by
  rw [lastBound?, List.reverse_cons, List.find?_append, Option.map_or, List.find?_singleton]
  by_cases here : chosen binding.1 = true
  · simp [here, lastBound?]
  · simp [here, lastBound?]

/-! Bindings are made one by one. -/

section Fold

variable {ε σ β : Type} {step : σ → β → Except ε σ}

theorem foldlM_cons_eq_ok_iff {state last : σ} {item : β} {rest : List β} :
    (item :: rest).foldlM step state = .ok last ↔
      ∃ next, step state item = .ok next ∧ rest.foldlM step next = .ok last := by
  rw [List.foldlM_cons]
  cases step state item <;> simp [bind, Except.bind]

theorem eq_none_of_ok {result : Except ε σ} {wrong? : Option ε} {value : σ}
    (fails : ∀ error, result = .error error ↔ wrong? = some error) (fine : result = .ok value) :
    wrong? = none := by
  apply Option.eq_none_iff_forall_not_mem.mpr
  intro error found
  rw [(fails error).mpr found] at fine
  cases fine

/-- Where each step fails for what is wrong with its own item, all of them fail for what is wrong
with the first item that something is wrong with. -/
theorem foldlM_eq_error_iff (holds : σ → Prop) {wrong? : β → Option ε}
    (keeps : ∀ state item next, holds state → step state item = .ok next → holds next)
    (fails : ∀ state item error, holds state →
      (step state item = .error error ↔ wrong? item = some error))
    (items : List β) {state : σ} (start : holds state) (error : ε) :
    items.foldlM step state = .error error ↔ items.findSome? wrong? = some error := by
  induction items generalizing state with
  | nil => simp [pure, Except.pure]
  | cons item rest ih =>
      have here : ∀ error, step state item = .error error ↔ wrong? item = some error :=
        fun error => fails state item error start
      rw [List.foldlM_cons, List.findSome?_cons]
      cases stepped : step state item with
      | error problem =>
          rw [(here problem).mp stepped]
          simp [bind, Except.bind]
      | ok next =>
          rw [eq_none_of_ok here stepped]
          exact ih (keeps state item next start stepped)

theorem foldlM_keeps (holds : σ → Prop)
    (keeps : ∀ state item next, holds state → step state item = .ok next → holds next)
    (items : List β) {state last : σ} (start : holds state)
    (ends : items.foldlM step state = .ok last) : holds last := by
  induction items generalizing state with
  | nil =>
      cases ends
      exact start
  | cons item rest ih =>
      obtain ⟨next, stepped, onward⟩ := foldlM_cons_eq_ok_iff.mp ends
      exact ih (keeps state item next start stepped) onward

end Fold

theorem lookup_foldlM {ε σ : Type} {step : σ → String × Hook → Except ε σ}
    (holds : σ → Prop) (look : σ → Option Hook) (chosen : String → Bool)
    (keeps : ∀ state item next, holds state → step state item = .ok next → holds next)
    (puts : ∀ state item next, holds state → step state item = .ok next →
      look next = if chosen item.1 then some item.2 else look state)
    (bindings : List (String × Hook)) {state last : σ} (start : holds state)
    (ends : bindings.foldlM step state = .ok last) :
    look last = (lastBound? chosen bindings).or (look state) := by
  induction bindings generalizing state with
  | nil =>
      cases ends
      rfl
  | cons binding rest ih =>
      obtain ⟨next, stepped, onward⟩ := foldlM_cons_eq_ok_iff.mp ends
      rw [ih (keeps state binding next start stepped) onward, lastBound?_cons,
        puts state binding next start stepped, Option.or_assoc]
      congr 1
      split <;> rfl

namespace Grammar

variable {grammar : Grammar Context}

theorem onRules_eq_foldlM (hooks : List (String × RuleHook Context)) :
    grammar.onRules hooks = hooks.foldlM (fun grammar binding =>
      grammar.onRule binding.1 binding.2) grammar := by
  induction hooks generalizing grammar with
  | nil => rfl
  | cons binding rest ih =>
      rw [onRules, List.foldlM_cons]
      cases grammar.onRule binding.1 binding.2 with
      | error error => rfl
      | ok after => exact ih

theorem onTokens_eq_foldlM (hooks : List (String × TokenHook Context)) :
    grammar.onTokens hooks = hooks.foldlM (fun grammar binding =>
      grammar.onToken binding.1 binding.2) grammar := by
  induction hooks generalizing grammar with
  | nil => rfl
  | cons binding rest ih =>
      rw [onTokens, List.foldlM_cons]
      cases grammar.onToken binding.1 binding.2 with
      | error error => rfl
      | ok after => exact ih

end Grammar

def misboundRule? (rules tokens : List String) (name : String) : Option DeclarationError :=
  if name ∉ rules ∧ name ∈ tokens then some (.hookKind name .rule .token) else none

def misboundToken? (rules : List String) (name : String) : Option DeclarationError :=
  if name ∈ rules then some (.hookKind name .token .rule) else none

theorem join_setIfInBounds {hooks : Array (Option Hook)} {index : Nat} (inside : index < hooks.size)
    (hook : Hook) (position : Nat) :
    (hooks.setIfInBounds index (some hook))[position]?.join =
      if index = position then some hook else hooks[position]?.join := by
  rw [Array.getElem?_setIfInBounds]
  by_cases same : index = position
  · simp [same, same ▸ inside]
  · simp [same]

namespace Grammar

variable {grammar after : Grammar Context} {name : String}

theorem onRule_eq_error_iff {hook : RuleHook Context} {error : DeclarationError} :
    grammar.onRule name hook = .error error ↔
      misboundRule? grammar.table.names grammar.table.lexicon.names name = some error := by
  unfold onRule misboundRule?
  cases found : grammar.table.ruleId? name with
  | some id => simp [RuleTable.mem_names_of_ruleId? found]
  | none =>
      have undeclared := RuleTable.ruleId?_eq_none_iff.mp found
      cases known : grammar.table.lexicon.id? name with
      | some id => simp [undeclared, Lexicon.mem_names_of_id? known]
      | none => simp [Lexicon.id?_eq_none_iff.mp known]

theorem onToken_eq_error_iff {hook : TokenHook Context} {error : DeclarationError} :
    grammar.onToken name hook = .error error ↔
      misboundToken? grammar.table.names name = some error := by
  unfold onToken misboundToken?
  cases found : grammar.table.ruleId? name with
  | some id => simp [RuleTable.mem_names_of_ruleId? found]
  | none =>
      have undeclared := RuleTable.ruleId?_eq_none_iff.mp found
      cases grammar.table.lexicon.id? name <;> simp [undeclared]

theorem onRule_ruleHook? (inStep : grammar.InStep) {hook : RuleHook Context}
    (bound : grammar.onRule name hook = .ok after) (id : RuleId) :
    after.ruleHook? id =
      if grammar.table.ruleId? name = some id then some hook else grammar.ruleHook? id := by
  unfold onRule at bound
  split at bound
  · next other found =>
      cases bound
      have inside := RuleTable.index_lt_of_ruleId? found
      rw [← inStep.rulePlaces] at inside
      apply (join_setIfInBounds inside hook id.index).trans
      simp only [found, Option.some_inj, RuleId.index_inj]
      rfl
  · next found =>
      have same : after = grammar := by
        split at bound
        · cases bound
        · cases bound
          rfl
      simp [same, found]

theorem onRule_tokenHook? {hook : RuleHook Context} (bound : grammar.onRule name hook = .ok after)
    (id : TokenId) : after.tokenHook? id = grammar.tokenHook? id := by
  unfold onRule at bound
  split at bound
  · cases bound
    rfl
  · split at bound
    · cases bound
    · cases bound
      rfl

theorem onToken_ruleHook? {hook : TokenHook Context}
    (bound : grammar.onToken name hook = .ok after) (id : RuleId) :
    after.ruleHook? id = grammar.ruleHook? id := by
  unfold onToken at bound
  split at bound
  · cases bound
  · split at bound
    · cases bound
      rfl
    · cases bound
      rfl

theorem onToken_tokenHook? (inStep : grammar.InStep) {hook : TokenHook Context}
    (bound : grammar.onToken name hook = .ok after) (id : TokenId) :
    after.tokenHook? id =
      if grammar.table.lexicon.id? name = some id then some hook else grammar.tokenHook? id := by
  unfold onToken at bound
  split at bound
  · cases bound
  · split at bound
    · next other found =>
        cases bound
        have inside := Lexicon.index_lt_of_id? found
        rw [← inStep.tokenPlaces] at inside
        apply (join_setIfInBounds inside hook id.index).trans
        simp only [found, Option.some_inj, TokenId.index_inj]
        rfl
    · next found =>
        cases bound
        simp [found]

def Binding (table : RuleTable) (grammar : Grammar Context) : Prop :=
  grammar.table = table ∧ grammar.InStep

theorem Binding.rebinds {table : RuleTable} (binding : grammar.Binding table)
    (rebinds : grammar.Rebinds after) : after.Binding table :=
  ⟨rebinds.table.trans binding.1, rebinds.inStep binding.2⟩

section Binding

variable {table : RuleTable}

theorem Binding.onRule {hook : RuleHook Context} (binding : grammar.Binding table)
    (bound : grammar.onRule name hook = .ok after) : after.Binding table :=
  binding.rebinds (onRule_rebinds bound)

theorem Binding.onToken {hook : TokenHook Context} (binding : grammar.Binding table)
    (bound : grammar.onToken name hook = .ok after) : after.Binding table :=
  binding.rebinds (onToken_rebinds bound)

variable {hooks : List (String × RuleHook Context)}
  {tokenHooks : List (String × TokenHook Context)}

theorem onRules_eq_error_iff (binding : grammar.Binding table)
    (hooks : List (String × RuleHook Context)) (error : DeclarationError) :
    grammar.onRules hooks = .error error ↔
      (hooks.findSome? fun hook => misboundRule? table.names table.lexicon.names hook.1) =
        some error := by
  rw [onRules_eq_foldlM]
  apply foldlM_eq_error_iff (Binding table) _ _ hooks binding
  · exact fun _ _ _ => Binding.onRule
  · rintro before hook error ⟨rfl, -⟩
    exact onRule_eq_error_iff

theorem onTokens_eq_error_iff (binding : grammar.Binding table)
    (tokenHooks : List (String × TokenHook Context)) (error : DeclarationError) :
    grammar.onTokens tokenHooks = .error error ↔
      (tokenHooks.findSome? fun hook => misboundToken? table.names hook.1) = some error := by
  rw [onTokens_eq_foldlM]
  apply foldlM_eq_error_iff (Binding table) _ _ tokenHooks binding
  · exact fun _ _ _ => Binding.onToken
  · rintro before hook error ⟨rfl, -⟩
    exact onToken_eq_error_iff

theorem onRules_ruleHook? (binding : grammar.Binding table)
    (bound : grammar.onRules hooks = .ok after) (id : RuleId) :
    after.ruleHook? id =
      (lastBound? (fun name => table.ruleId? name = some id) hooks).or (grammar.ruleHook? id) := by
  rw [onRules_eq_foldlM] at bound
  apply lookup_foldlM (Binding table) (ruleHook? · id) _ _ _ hooks binding bound
  · exact fun _ _ _ => Binding.onRule
  · rintro before hook after ⟨rfl, inStep⟩ bound
    simpa using onRule_ruleHook? inStep bound id

theorem onTokens_tokenHook? (binding : grammar.Binding table)
    (bound : grammar.onTokens tokenHooks = .ok after) (id : TokenId) :
    after.tokenHook? id =
      (lastBound? (fun name => table.lexicon.id? name = some id) tokenHooks).or
        (grammar.tokenHook? id) := by
  rw [onTokens_eq_foldlM] at bound
  apply lookup_foldlM (Binding table) (tokenHook? · id) _ _ _ tokenHooks binding bound
  · exact fun _ _ _ => Binding.onToken
  · rintro before hook after ⟨rfl, inStep⟩ bound
    simpa using onToken_tokenHook? inStep bound id

theorem onRules_tokenHook? (bound : grammar.onRules hooks = .ok after) (id : TokenId) :
    after.tokenHook? id = grammar.tokenHook? id := by
  rw [onRules_eq_foldlM] at bound
  apply foldlM_keeps (fun after => after.tokenHook? id = grammar.tokenHook? id) _ hooks rfl bound
  intro before hook after same bound
  exact (onRule_tokenHook? bound id).trans same

theorem onTokens_ruleHook? (bound : grammar.onTokens tokenHooks = .ok after) (id : RuleId) :
    after.ruleHook? id = grammar.ruleHook? id := by
  rw [onTokens_eq_foldlM] at bound
  apply foldlM_keeps (fun after => after.ruleHook? id = grammar.ruleHook? id) _ tokenHooks rfl bound
  intro before hook after same bound
  exact (onToken_ruleHook? bound id).trans same

theorem bare_ruleHook? (table : RuleTable) (ignore : List String) (limits : Limits)
    (id : RuleId) : (bare table ignore limits : Grammar Context).ruleHook? id = none := by
  simp only [ruleHook?, bare, Array.getElem?_replicate]
  split <;> rfl

theorem bare_tokenHook? (table : RuleTable) (ignore : List String) (limits : Limits)
    (id : TokenId) : (bare table ignore limits : Grammar Context).tokenHook? id = none := by
  simp only [tokenHook?, bare, Array.getElem?_replicate]
  split <;> rfl

theorem bare_binding (table : RuleTable) (ignore : List String) (limits : Limits) :
    (bare table ignore limits : Grammar Context).Binding table :=
  ⟨rfl, bare_inStep table ignore limits⟩

end Binding

end Grammar

theorem Lexicon.names_of_define {before after : Lexicon} {engine : Engine} {name pattern : String}
    (defined : before.define engine name pattern = .ok after) :
    after.names = before.names ++ [name] := by
  unfold define at defined
  split at defined
  · cases defined
  · split at defined
    · cases defined
    · cases defined
      simp [names]

theorem Lexicon.names_of_foldlM {ε : Type} {step : Lexicon → String × String → Except ε Lexicon}
    (adds : ∀ before item after, step before item = .ok after →
      after.names = before.names ++ [item.1])
    (items : List (String × String)) {before after : Lexicon}
    (ends : items.foldlM step before = .ok after) :
    after.names = before.names ++ items.map (·.1) := by
  induction items generalizing before with
  | nil =>
      cases ends
      exact (List.append_nil _).symm
  | cons item rest ih =>
      obtain ⟨next, stepped, onward⟩ := foldlM_cons_eq_ok_iff.mp ends
      rw [ih onward, adds before item next stepped, List.append_assoc]
      rfl

theorem Lexicon.names_of_ofDefinitions {engine : Engine} {definitions : List (String × String)}
    {lexicon : Lexicon} (made : Lexicon.ofDefinitions engine definitions = .ok lexicon) :
    lexicon.names = definitions.map (·.1) := by
  apply (names_of_foldlM _ definitions made).trans (List.nil_append _)
  exact fun _ _ _ => names_of_define

namespace Declaration

variable {declaration : Declaration Context} {engine : Engine}

structure InOrder (declaration : Declaration Context) (engine : Engine) (lexicon : Lexicon)
    (table : RuleTable) : Prop where
  defined : Lexicon.ofDefinitions engine declaration.tokens = .ok lexicon
  known : ∀ name ∈ declaration.ignore, name ∈ declaration.tokens.map (·.1)
  made : RuleTable.ofRules lexicon declaration.rules = .ok table

/-- What is wrong with the hooks of a declaration: the first one on a rule that is bound to a
token, or where there is none the first one on a token that is bound to a rule. A name that both
a rule and a token have means the rule. -/
def misbinding? (declaration : Declaration Context) : Option DeclarationError :=
  let rules := declaration.rules.map (·.1)
  let tokens := declaration.tokens.map (·.1)
  (declaration.ruleHooks.findSome? fun hook => misboundRule? rules tokens hook.1).or
    (declaration.tokenHooks.findSome? fun hook => misboundToken? rules hook.1)

variable {lexicon : Lexicon} {table : RuleTable}

theorem InOrder.build_eq (inOrder : declaration.InOrder engine lexicon table) :
    declaration.build engine =
      ((Grammar.bare table declaration.ignore declaration.limits).onRules
        declaration.ruleHooks).bind (·.onTokens declaration.tokenHooks) := by
  have known : (declaration.ignore.find? fun name => (lexicon.id? name).isNone) = none := by
    apply List.find?_eq_none.mpr
    intro name ignored
    have declared := inOrder.known name ignored
    rw [← Lexicon.names_of_ofDefinitions inOrder.defined] at declared
    simpa using mt Lexicon.id?_eq_none_iff.mp (not_not_intro declared)
  rw [build, inOrder.defined]
  dsimp only
  rw [known]
  dsimp only
  rw [inOrder.made]
  dsimp only
  cases (Grammar.bare table declaration.ignore declaration.limits).onRules
      declaration.ruleHooks with
  | error problem => rfl
  | ok between => rfl

theorem InOrder.exists_onRules (inOrder : declaration.InOrder engine lexicon table)
    {grammar : Grammar Context} (builds : declaration.build engine = .ok grammar) :
    ∃ between, (Grammar.bare table declaration.ignore declaration.limits).onRules
        declaration.ruleHooks = .ok between ∧
      between.onTokens declaration.tokenHooks = .ok grammar := by
  rw [inOrder.build_eq] at builds
  cases bound : (Grammar.bare table declaration.ignore declaration.limits).onRules
      declaration.ruleHooks with
  | error problem =>
      rw [bound] at builds
      cases builds
  | ok between =>
      rw [bound] at builds
      exact ⟨between, rfl, builds⟩

theorem InOrder.build_eq_error_iff (inOrder : declaration.InOrder engine lexicon table)
    (error : DeclarationError) :
    declaration.build engine = .error error ↔ declaration.misbinding? = some error := by
  have made := RuleTable.made_of_ofRules inOrder.made
  have binding : (Grammar.bare table declaration.ignore declaration.limits :
      Grammar Context).Binding table := Grammar.bare_binding ..
  have onRules := Grammar.onRules_eq_error_iff binding declaration.ruleHooks
  rw [inOrder.build_eq, misbinding?, ← made.names,
    ← Lexicon.names_of_ofDefinitions inOrder.defined, ← made.known]
  cases bound : (Grammar.bare table declaration.ignore declaration.limits).onRules
      declaration.ruleHooks with
  | error problem =>
      rw [(onRules problem).mp bound]
      simp [Except.bind]
  | ok between =>
      rw [eq_none_of_ok onRules bound, Option.none_or]
      apply Grammar.onTokens_eq_error_iff
      exact binding.rebinds (Grammar.onRules_rebinds bound)

theorem exists_misbinding_iff (declaration : Declaration Context) :
    (∃ error, declaration.misbinding? = some error) ↔
      (∃ hook ∈ declaration.ruleHooks,
        hook.1 ∉ declaration.rules.map (·.1) ∧ hook.1 ∈ declaration.tokens.map (·.1)) ∨
      ∃ hook ∈ declaration.tokenHooks, hook.1 ∈ declaration.rules.map (·.1) := by
  have ruleSide : ∀ rules tokens name, (misboundRule? rules tokens name).isSome = true ↔
      name ∉ rules ∧ name ∈ tokens := by
    intro rules tokens name
    unfold misboundRule?
    split <;> simp_all
  have tokenSide : ∀ rules name, (misboundToken? rules name).isSome = true ↔ name ∈ rules := by
    intro rules name
    unfold misboundToken?
    split <;> simp_all
  rw [← Option.isSome_iff_exists, misbinding?, Option.isSome_or, Bool.or_eq_true,
    List.findSome?_isSome_iff, List.findSome?_isSome_iff]
  simp only [ruleSide, tokenSide]

/-- Whether the rules and tokens of a grammar have the hooks that were bound to them last, and
whatever has a hook is watched, and nothing else. -/
structure Hooked (declaration : Declaration Context) (grammar : Grammar Context) : Prop where
  watched : ∀ subject, grammar.watch.watches subject = grammar.hears subject
  numberedRule : ∀ id, grammar.ruleHook? id =
    lastBound? (fun name => grammar.table.ruleId? name = some id) declaration.ruleHooks
  numberedToken : ∀ id, grammar.tokenHook? id =
    lastBound? (fun name => grammar.table.lexicon.id? name = some id) declaration.tokenHooks
  namedRule : grammar.table.size ≤ UInt32.size → ∀ id rule, grammar.table.rule? id = some rule →
    grammar.ruleHook? id = lastBound? (· = rule.name) declaration.ruleHooks
  namedToken : grammar.table.lexicon.size ≤ UInt32.size → ∀ id name,
    grammar.table.lexicon.name? id = some name →
    grammar.tokenHook? id = lastBound? (· = name) declaration.tokenHooks

theorem InOrder.hooked (inOrder : declaration.InOrder engine lexicon table)
    {grammar : Grammar Context} (builds : declaration.build engine = .ok grammar) :
    declaration.Hooked grammar := by
  obtain ⟨known, built⟩ := Declaration.built builds
  have made := RuleTable.made_of_ofRules built.made
  have binding : (Grammar.bare table declaration.ignore declaration.limits :
      Grammar Context).Binding table := Grammar.bare_binding ..
  obtain ⟨between, rulesBound, tokensBound⟩ := inOrder.exists_onRules builds
  have bindingBetween := binding.rebinds (Grammar.onRules_rebinds rulesBound)
  have tables : grammar.table = table :=
    (bindingBetween.rebinds (Grammar.onTokens_rebinds tokensBound)).1
  have rules : ∀ id, grammar.ruleHook? id =
      lastBound? (fun name => grammar.table.ruleId? name = some id) declaration.ruleHooks := by
    intro id
    rw [Grammar.onTokens_ruleHook? tokensBound, Grammar.onRules_ruleHook? binding rulesBound,
      Grammar.bare_ruleHook?, Option.or_none, tables]
  have tokens : ∀ id, grammar.tokenHook? id =
      lastBound? (fun name => grammar.table.lexicon.id? name = some id)
        declaration.tokenHooks := by
    intro id
    rw [Grammar.onTokens_tokenHook? bindingBetween tokensBound,
      Grammar.onRules_tokenHook? rulesBound, Grammar.bare_tokenHook?, Option.or_none, tables]
  constructor
  case watched => exact built.inStep.watched
  case numberedRule => exact rules
  case numberedToken => exact tokens
  case namedRule =>
    intro few id rule declared
    have distinct := (firstRepeated?_eq_none_iff.mp made.distinct).1
    rw [rules id]
    congr 1
    funext name
    simp only [RuleTable.ruleId?_eq_some_iff_of_nodup distinct few, declared, Option.map_some,
      Option.some_inj, eq_comm]
  case namedToken =>
    intro few id name named
    rw [tokens id]
    congr 1
    funext other
    simp only [Lexicon.id?_eq_some_iff few, named, Option.some_inj, eq_comm]

end Declaration

end TextGrammar
