import TextGrammar.Grammar.Basic
import TextGrammar.Proofs.Matching.Watching
import TextGrammar.Proofs.Rules.Range

/-!
Binding hooks. A grammar under construction watches exactly what a hook is bound to, and
binding changes nothing but the hooks and the watch.
-/

namespace TextGrammar

theorem getD_setFlag_of_place {Hook : Type} {flags : Array Bool} {hooks : Array (Option Hook)}
    {index position : Nat} (inside : index < hooks.size)
    (told : (flags[position]?).getD false = hooks[position]?.join.isSome) (hook : Hook) :
    ((setFlag flags index)[position]?).getD false =
      (hooks.setIfInBounds index (some hook))[position]?.join.isSome := by
  rw [getD_setFlag, told, Array.getElem?_setIfInBounds]
  by_cases same : index = position
  · simp [same, same ▸ inside]
  · simp [same]

theorem RuleTable.index_lt_of_ruleId? {table : RuleTable} {name : String} {id : RuleId}
    (found : table.ruleId? name = some id) : id.index < table.size := by
  obtain ⟨index, located, rfl⟩ := Option.map_eq_some_iff.mp found
  have bound := idxOf?_mod_lt located
  rwa [RuleTable.names, List.length_map, Array.length_toList] at bound

theorem Lexicon.index_lt_of_id? {lexicon : Lexicon} {name : String} {id : TokenId}
    (found : lexicon.id? name = some id) : id.index < lexicon.size := by
  obtain ⟨index, located, rfl⟩ := Option.map_eq_some_iff.mp found
  have bound := idxOf?_mod_lt located
  rwa [Lexicon.names, List.length_map] at bound

namespace Grammar

variable {Context : Type} {grammar before after : Grammar Context}

def ruleHook? (grammar : Grammar Context) (id : RuleId) : Option (RuleHook Context) :=
  grammar.ruleHooks[id.index]?.join

def tokenHook? (grammar : Grammar Context) (id : TokenId) : Option (TokenHook Context) :=
  grammar.tokenHooks[id.index]?.join

/-- Whether a hook is bound to a rule or token. -/
def hears (grammar : Grammar Context) : Subject → Bool
  | .rule id => (grammar.ruleHook? id).isSome
  | .token id => (grammar.tokenHook? id).isSome

/-- Whether a grammar has a place for the hook of each of its rules and tokens, and watches
those that a hook is bound to. -/
structure InStep (grammar : Grammar Context) : Prop where
  rulePlaces : grammar.ruleHooks.size = grammar.table.size
  tokenPlaces : grammar.tokenHooks.size = grammar.table.lexicon.size
  watched : ∀ subject, grammar.watch.watches subject = grammar.hears subject

structure Rebinds (before after : Grammar Context) : Prop where
  table : after.table = before.table
  ignore : after.ignore = before.ignore
  limits : after.limits = before.limits
  inStep : before.InStep → after.InStep

theorem Rebinds.refl (grammar : Grammar Context) : grammar.Rebinds grammar := ⟨rfl, rfl, rfl, id⟩

theorem Rebinds.trans {first second third : Grammar Context} (front : first.Rebinds second)
    (back : second.Rebinds third) : first.Rebinds third :=
  ⟨back.table.trans front.table, back.ignore.trans front.ignore, back.limits.trans front.limits,
    back.inStep ∘ front.inStep⟩

theorem bare_inStep (table : RuleTable) (ignore : List String) (limits : Limits) :
    (bare table ignore limits : Grammar Context).InStep where
  rulePlaces := Array.size_replicate
  tokenPlaces := Array.size_replicate
  watched subject := by
    cases subject with
    | rule id =>
        simp only [bare, Watch.none, Watch.watches, Watch.watchesRule, hears, ruleHook?,
          Array.getElem?_replicate]
        split <;> simp
    | token id =>
        simp only [bare, Watch.none, Watch.watches, Watch.watchesToken, hears, tokenHook?,
          Array.getElem?_replicate]
        split <;> simp

theorem onRule_rebinds {name : String} {hook : RuleHook Context}
    (bound : before.onRule name hook = .ok after) : before.Rebinds after := by
  unfold onRule at bound
  split at bound
  · next id found =>
      cases bound
      refine ⟨rfl, rfl, rfl, fun inStep => ⟨?_, inStep.tokenPlaces, ?_⟩⟩
      · exact (Array.size_setIfInBounds ..).trans inStep.rulePlaces
      · have inside := RuleTable.index_lt_of_ruleId? found
        rw [← inStep.rulePlaces] at inside
        intro subject
        cases subject with
        | token token => exact inStep.watched (.token token)
        | rule rule => exact getD_setFlag_of_place inside (inStep.watched (.rule rule)) hook
  · split at bound
    · cases bound
    · cases bound
      exact .refl _

theorem onToken_rebinds {name : String} {hook : TokenHook Context}
    (bound : before.onToken name hook = .ok after) : before.Rebinds after := by
  unfold onToken at bound
  split at bound
  · cases bound
  · split at bound
    · next id found =>
        cases bound
        refine ⟨rfl, rfl, rfl, fun inStep => ⟨inStep.rulePlaces, ?_, ?_⟩⟩
        · exact (Array.size_setIfInBounds ..).trans inStep.tokenPlaces
        · have inside := Lexicon.index_lt_of_id? found
          rw [← inStep.tokenPlaces] at inside
          intro subject
          cases subject with
          | rule rule => exact inStep.watched (.rule rule)
          | token token => exact getD_setFlag_of_place inside (inStep.watched (.token token)) hook
    · cases bound
      exact .refl _

theorem onRules_rebinds {hooks : List (String × RuleHook Context)}
    (bound : before.onRules hooks = .ok after) : before.Rebinds after := by
  induction hooks generalizing before with
  | nil =>
      cases bound
      exact .refl _
  | cons hook rest ih =>
      simp only [onRules] at bound
      split at bound
      · cases bound
      · next between first => exact (onRule_rebinds first).trans (ih bound)

theorem onTokens_rebinds {hooks : List (String × TokenHook Context)}
    (bound : before.onTokens hooks = .ok after) : before.Rebinds after := by
  induction hooks generalizing before with
  | nil =>
      cases bound
      exact .refl _
  | cons hook rest ih =>
      simp only [onTokens] at bound
      split at bound
      · cases bound
      · next between first => exact (onToken_rebinds first).trans (ih bound)

end Grammar

structure Declaration.Built {Context : Type} (declaration : Declaration Context)
    (engine : Engine) (lexicon : Lexicon) (grammar : Grammar Context) : Prop where
  defined : Lexicon.ofDefinitions engine declaration.tokens = .ok lexicon
  made : RuleTable.ofRules lexicon declaration.rules = .ok grammar.table
  ignore : grammar.ignore = declaration.ignore
  limits : grammar.limits = declaration.limits
  inStep : grammar.InStep

theorem Declaration.built {Context : Type} {declaration : Declaration Context} {engine : Engine}
    {grammar : Grammar Context} (builds : declaration.build engine = .ok grammar) :
    ∃ lexicon, declaration.Built engine lexicon grammar := by
  unfold build at builds
  split at builds
  · cases builds
  · next lexicon defined =>
      split at builds
      · cases builds
      · split at builds
        · cases builds
        · next table made =>
            split at builds
            · cases builds
            · next between rulesBound =>
                have rebinds := (Grammar.onRules_rebinds rulesBound).trans
                  (Grammar.onTokens_rebinds builds)
                exact ⟨lexicon, defined, by rw [made, rebinds.table]; rfl, rebinds.ignore,
                  rebinds.limits, rebinds.inStep (Grammar.bare_inStep ..)⟩

end TextGrammar
