import TextGrammar.Notation.Body

/-!
What can be wrong with the rules of a grammar.
-/

namespace TextGrammar

open Notation (BodyError)

inductive RuleError where
  /-- A rule's body says nothing that can be read. -/
  | body (rule : String) (error : BodyError)
  /-- A rule refers to something that is not declared. -/
  | unknownName (rule name : String)
  | duplicateRule (name : String)
  | noRules
  deriving DecidableEq, Repr

namespace RuleError

def rule? : RuleError → Option String
  | body rule _ | unknownName rule _ | duplicateRule rule => some rule
  | noRules => none

def bodyMessage (rule : String) : BodyError → String
  | .empty => s!"rule `{rule}` is empty"
  | .unexpectedCharacter offset => s!"rule `{rule}`: unexpected character at offset {offset}"
  | .unbalancedGroup offset => s!"rule `{rule}`: unbalanced parenthesis at offset {offset}"
  | .emptyGroup offset => s!"rule `{rule}`: empty group at offset {offset}"
  | .danglingQuantifier offset =>
      s!"rule `{rule}`: quantifier at offset {offset} has nothing to repeat"
  | .danglingAlternative offset =>
      s!"rule `{rule}`: empty alternative next to `|` at offset {offset}"
  | .invalidBounds text offset =>
      s!"rule `{rule}`: invalid occurrence `{text}` at offset {offset}"

def message : RuleError → String
  | body rule error => bodyMessage rule error
  | unknownName rule name =>
      s!"rule `{rule}` references `{name}`, which is neither a rule nor a token"
  | duplicateRule name => s!"rule `{name}` is defined more than once"
  | noRules => "grammar has no rules"

end RuleError

end TextGrammar
