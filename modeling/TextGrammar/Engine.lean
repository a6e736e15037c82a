/-!
What is asked of an engine for patterns. A pattern is text in a notation of the engine's own. All
that is used of it is its search: how much it takes of a text from the start on.
-/

namespace TextGrammar

/-- How many characters are taken at the start of a text, if there is a match. What stands in
front of the text has no part in it, and a match ends within the text, between two characters. -/
structure Search where
  length? : List Char → Option Nat
  length?_le : ∀ {text count}, length? text = some count → count ≤ text.length

/-- Reads a pattern: its search, or what is wrong with it in words. -/
abbrev Engine := String → Except String Search

def Search.literally (wanted : List Char) : Search where
  length? text := if wanted <+: text then some wanted.length else none
  length?_le := by
    intro text count found
    split at found
    · next starts =>
        cases found
        exact starts.length_le
    · cases found

/-- An engine to which a pattern is the text that it matches, as it is to any engine where each
character of the pattern stands for itself. -/
def Engine.plain : Engine := fun pattern => .ok (.literally pattern.toList)

end TextGrammar
