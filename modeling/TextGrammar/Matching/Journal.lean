import TextGrammar.Matching.Progress
import TextGrammar.Rules.RuleTable
import TextGrammar.Text.Quoted

/-!
The journal of a match as text, a line for each step, indented by two blanks for each rule
that is being matched. It is a fault if something in a line has no name.
-/

namespace TextGrammar

def indented (depth : Nat) (line : String) : String :=
  String.ofList (List.replicate (2 * depth) ' ') ++ line

/-- The depth that the line of a step stands on, where it is so deep in front of the step. The
steps of entering and leaving a rule stand on the depth outside the rule. -/
def Step.level (depth : Nat) : Step → Nat
  | .leave _ _ _ => depth - 1
  | .enter _ _ | .test _ _ _ _ | .backtrack _ _ => depth

def Step.levelBehind (depth : Nat) : Step → Nat
  | .enter _ _ => depth + 1
  | .leave _ _ _ => depth - 1
  | .test _ _ _ _ | .backtrack _ _ => depth

namespace RuleTable

def stepText (table : RuleTable) : Step → Except Fault String
  | .enter rule cursor => (table.ruleName rule).map fun name => "> " ++ name ++ s!" @{cursor}"
  | .leave rule cursor true =>
      (table.ruleName rule).map fun name => "< " ++ name ++ s!" @{cursor}"
  | .leave rule _ false => (table.ruleName rule).map ("! " ++ ·)
  | .test expected cursor found matched =>
      match table.tokenName expected with
      | .error fault => .error fault
      | .ok name =>
          match found, matched with
          | some lexeme, true =>
              .ok ("+ " ++ name ++ " " ++ Text.quoted lexeme.text ++ s!" @{cursor}")
          | some lexeme, false =>
              (table.tokenName lexeme.id).map fun other =>
                "- " ++ name ++ s!" @{cursor} (found " ++ other ++ ")"
          | none, _ => .ok ("- " ++ name ++ s!" @{cursor} (end of input)")
  | .backtrack start stop => .ok s!"~ backtrack {start} -> {stop}"

def journalFrom (table : RuleTable) (depth : Nat) : List Step → Except Fault (List String)
  | [] => .ok []
  | step :: rest =>
      match table.stepText step with
      | .error fault => .error fault
      | .ok line =>
          (table.journalFrom (step.levelBehind depth) rest).map
            (indented (step.level depth) line :: ·)

def journalLines (table : RuleTable) (steps : Array Step) : Except Fault (List String) :=
  table.journalFrom 0 steps.toList

end RuleTable

end TextGrammar
