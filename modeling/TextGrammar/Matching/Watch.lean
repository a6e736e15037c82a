import TextGrammar.Rules.RuleTable

/-!
Watches: which rules and tokens leave events on the trail. A watch holds a flag for each
number up to the highest that was watched; a number beyond has no flag and is not watched.
-/

namespace TextGrammar

def setFlag (flags : Array Bool) (index : Nat) : Array Bool :=
  if index < flags.size then flags.setIfInBounds index true
  else (flags ++ Array.replicate (index - flags.size) false).push true

/-- Flags of rules and of tokens. Two watches are equal if they hold the same flags, those
that are cleared included. -/
structure Watch where
  rules : Array Bool
  tokens : Array Bool
  deriving DecidableEq, Repr

namespace Watch

def none : Watch := ⟨#[], #[]⟩

def all (table : RuleTable) : Watch :=
  ⟨Array.replicate table.size true, Array.replicate table.lexicon.size true⟩

def addRule (watch : Watch) (id : RuleId) : Watch :=
  { watch with rules := setFlag watch.rules id.index }

def addToken (watch : Watch) (id : TokenId) : Watch :=
  { watch with tokens := setFlag watch.tokens id.index }

def watchesRule (watch : Watch) (id : RuleId) : Bool :=
  (watch.rules[id.index]?).getD false

def watchesToken (watch : Watch) (id : TokenId) : Bool :=
  (watch.tokens[id.index]?).getD false

end Watch

end TextGrammar
