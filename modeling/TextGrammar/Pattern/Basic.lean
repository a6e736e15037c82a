import TextGrammar.Pattern.CharSet

/-!
Patterns over characters. A pattern says not only what it matches but which match it
prefers: the first alternative before the second, and one more round of a greedy
repetition before stopping.
-/

namespace TextGrammar

inductive Pattern.Anchor where
  | textStart
  | textEnd
  | lineStart
  | lineEnd
  /-- As `lineStart` and `lineEnd`, where a carriage return breaks lines too and one that
  a line feed follows breaks with it. -/
  | returnLineStart
  | returnLineEnd
  | wordBoundary
  | noWordBoundary
  | wordStart
  | wordEnd
  | wordStartHalf
  | wordEndHalf
  deriving DecidableEq, Repr

/-- A pattern. `times` repeats exactly, `upTo` at most so often, `star` any number of
times, and `more` goes on with a repetition that has had a round. -/
inductive Pattern where
  | empty
  | set (members : Pattern.CharSet)
  | anchor (condition : Pattern.Anchor)
  | sequence (first second : Pattern)
  | choice (first second : Pattern)
  | times (count : Nat) (body : Pattern)
  | upTo (count : Nat) (greedy : Bool) (body : Pattern)
  | star (greedy : Bool) (body : Pattern)
  | more (greedy : Bool) (body : Pattern)
  deriving DecidableEq, Repr

namespace Pattern

def isEmptyOnly : Pattern → Bool
  | empty | anchor _ => true
  | set _ => false
  | sequence first second | choice first second => first.isEmptyOnly && second.isEmptyOnly
  | times count body | upTo count _ body => count == 0 || body.isEmptyOnly
  | star _ body | more _ body => body.isEmptyOnly

/-- Between `least` and `most` rounds of a pattern, `most` being absent where there is no
bound. A body that takes no text is run once at most. -/
def repeated (least : Nat) (most : Option Nat) (greedy : Bool) (body : Pattern) : Pattern :=
  let least := if body.isEmptyOnly then min least 1 else least
  let most := if body.isEmptyOnly then some (min (most.getD 1) 1) else most
  match least, most with
  | 0, some 0 => empty
  | 1, some 1 => body
  | 0, some most => upTo most greedy body
  | least, some most =>
      if least = most then times least body
      else sequence (times least body) (upTo (most - least) greedy body)
  | 0, none => star greedy body
  | 1, none => sequence body (more greedy body)
  | least + 1, none => sequence (times least body) (sequence body (more greedy body))

def sequences : List Pattern → Pattern
  | [] => empty
  | [pattern] => pattern
  | pattern :: rest => sequence pattern (sequences rest)

def choices : List Pattern → Pattern
  | [] => empty
  | [pattern] => pattern
  | pattern :: rest => choice pattern (choices rest)

def places : Pattern → Nat
  | empty | set _ | anchor _ => 1
  | sequence first second | choice first second => first.places + second.places + 1
  | times count body | upTo count _ body => count * (body.places + 1) + 1
  | star _ body | more _ body => body.places + 2

end Pattern

end TextGrammar
