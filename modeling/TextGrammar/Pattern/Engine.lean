import TextGrammar.Engine
import TextGrammar.Pattern.Reader
import TextGrammar.Pattern.Search

/-!
The engine of these patterns, for programs that need one to run with. Nothing that is said of
lexicons, scanners and grammars depends on it.
-/

namespace TextGrammar.Pattern

def search (pattern : Pattern) : Search := ⟨pattern.matchLength?, matchLength?_le⟩

/-- Reads a pattern, or refuses it without saying why. -/
def engine : Engine := fun text =>
  match ofText? text.toList with
  | none => .error "error parsing pattern 0"
  | some pattern => .ok pattern.search

end TextGrammar.Pattern
