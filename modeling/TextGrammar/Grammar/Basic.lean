import TextGrammar.Grammar.Hook
import TextGrammar.Matching.Progress
import TextGrammar.Matching.Watch

/-!
Grammars: a rule table with hooks on some of its rules and tokens. A grammar is declared
by listing tokens, rules and hooks, and built once; what is wrong with a declaration shows
then.
-/

namespace TextGrammar

structure Declaration (Context : Type) where
  tokens : List (String × String)
  rules : List (String × String)
  ignore : List String
  ruleHooks : List (String × RuleHook Context)
  tokenHooks : List (String × TokenHook Context)
  limits : Limits

/-- A rule table with the tokens to ignore, the hooks by number of rule and token, and the
watch that makes a match record what the hooks are called for. -/
structure Grammar (Context : Type) where
  table : RuleTable
  ignore : List String
  watch : Watch
  ruleHooks : Array (Option (RuleHook Context))
  tokenHooks : Array (Option (TokenHook Context))
  limits : Limits

namespace Grammar

variable {Context : Type}

def bare (table : RuleTable) (ignore : List String) (limits : Limits) : Grammar Context where
  table := table
  ignore := ignore
  watch := .none
  ruleHooks := Array.replicate table.size none
  tokenHooks := Array.replicate table.lexicon.size none
  limits := limits

/-- Binds a hook to a rule. A hook that was bound before is replaced, and a name that means
nothing is passed over. -/
def onRule (grammar : Grammar Context) (name : String) (hook : RuleHook Context) :
    Except DeclarationError (Grammar Context) :=
  match grammar.table.ruleId? name with
  | some id => .ok
      { grammar with
        watch := grammar.watch.addRule id
        ruleHooks := grammar.ruleHooks.setIfInBounds id.index (some hook) }
  | none =>
      match grammar.table.lexicon.id? name with
      | some _ => .error (.hookKind name .rule .token)
      | none => .ok grammar

/-- Binds a hook to a token. A token that has the name of a rule can never be reached, so
the name means the rule here too. -/
def onToken (grammar : Grammar Context) (name : String) (hook : TokenHook Context) :
    Except DeclarationError (Grammar Context) :=
  match grammar.table.ruleId? name with
  | some _ => .error (.hookKind name .token .rule)
  | none =>
      match grammar.table.lexicon.id? name with
      | some id => .ok
          { grammar with
            watch := grammar.watch.addToken id
            tokenHooks := grammar.tokenHooks.setIfInBounds id.index (some hook) }
      | none => .ok grammar

def onRules (grammar : Grammar Context) :
    List (String × RuleHook Context) → Except DeclarationError (Grammar Context)
  | [] => .ok grammar
  | (name, hook) :: rest =>
      match grammar.onRule name hook with
      | .error error => .error error
      | .ok grammar => grammar.onRules rest

def onTokens (grammar : Grammar Context) :
    List (String × TokenHook Context) → Except DeclarationError (Grammar Context)
  | [] => .ok grammar
  | (name, hook) :: rest =>
      match grammar.onToken name hook with
      | .error error => .error error
      | .ok grammar => grammar.onTokens rest

end Grammar

/-- Builds the grammar that is declared, with an engine for the patterns of its tokens. The tokens
are looked at first, then the names to ignore, the rules, the hooks on rules and the hooks on
tokens. -/
def Declaration.build {Context : Type} (declaration : Declaration Context) (engine : Engine) :
    Except DeclarationError (Grammar Context) :=
  match Lexicon.ofDefinitions engine declaration.tokens with
  | .error error => .error (.lexical error)
  | .ok lexicon =>
      match declaration.ignore.find? fun name => (lexicon.id? name).isNone with
      | some name => .error (.unknownIgnored name)
      | none =>
          match RuleTable.ofRules lexicon declaration.rules with
          | .error error => .error (.rule error)
          | .ok table =>
              match (Grammar.bare table declaration.ignore declaration.limits).onRules
                  declaration.ruleHooks with
              | .error error => .error error
              | .ok grammar => grammar.onTokens declaration.tokenHooks

end TextGrammar
