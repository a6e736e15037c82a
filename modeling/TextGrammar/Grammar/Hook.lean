import TextGrammar.Lexicon
import TextGrammar.Matching.Event
import TextGrammar.Rules.RuleError

/-!
Hooks, and what can be wrong with a grammar's declaration. A hook is called while an
accepted parse is replayed and changes a context of the caller's own type.
-/

namespace TextGrammar

inductive Visit where
  | enter
  | leave
  deriving DecidableEq, Repr

inductive HookKind where
  | rule
  | token
  deriving DecidableEq, Repr

def HookKind.text : HookKind → String
  | rule => "rule"
  | token => "token"

abbrev RuleHook (Context : Type) := Visit → Event → Context → Context

abbrev TokenHook (Context : Type) := String → Event → Context → Context

inductive DeclarationError where
  | lexical (error : LexicalError)
  | rule (error : RuleError)
  /-- A token to be ignored is not declared. -/
  | unknownIgnored (name : String)
  /-- A hook was bound to a name that means something of the other kind. -/
  | hookKind (name : String) (hook actual : HookKind)
  deriving DecidableEq, Repr

def DeclarationError.message : DeclarationError → String
  | lexical error => error.message
  | rule error => error.message
  | unknownIgnored name => s!"ignored token `{name}` is not declared"
  | hookKind name hook actual =>
      s!"`{name}` is a " ++ actual.text ++ ", but a " ++ hook.text ++ " hook was bound to it"

end TextGrammar
