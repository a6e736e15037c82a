import TextGrammar.Id

/-!
Faults: uses of a number, a slot or an event that no accepted parse makes. A run that
meets one stops there and keeps what it has done so far.
-/

namespace TextGrammar

inductive Fault where
  | tokenOutOfRange (id : TokenId)
  | ruleOutOfRange (id : RuleId)
  /-- The event of a rule has no end where the end is needed. -/
  | neverClosed (start : Nat)
  /-- The event of a token stands behind the last lexeme. -/
  | pastEnd (start count : Nat)
  | closedTwice
  | slotOutOfBounds (length slot : Nat)
  /-- A counter would need more than 32 bits. -/
  | countOverflow
  /-- A counter would fall below zero. -/
  | countUnderflow
  deriving DecidableEq, Repr

def Fault.message : Fault → String
  | tokenOutOfRange id => s!"token id {id} out of range"
  | ruleOutOfRange id => s!"rule id {id} out of range"
  | neverClosed start => s!"rule event at {start} was never closed"
  | pastEnd start count => s!"token event at {start} is past the end of {count} tokens"
  | closedTwice => "rule event closed twice"
  | slotOutOfBounds length slot =>
      s!"index out of bounds: the len is {length} but the index is {slot}"
  | countOverflow => "attempt to add with overflow"
  | countUnderflow => "attempt to subtract with overflow"

end TextGrammar
