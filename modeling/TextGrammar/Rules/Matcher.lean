import TextGrammar.Fault
import TextGrammar.Notation.Bounds

/-!
Matchers: phrases whose names have been looked up. A rule is held by number and looked up
when it is run, so rules may refer to one another in any order and to themselves.
-/

namespace TextGrammar

open Notation (Bounds)

inductive Matcher where
  | token (id : TokenId)
  | rule (id : RuleId)
  | sequence (parts : List Matcher)
  | choice (alternatives : List Matcher)
  | repeated (bounds : Bounds) (body : Matcher)
  deriving Repr

structure Naming where
  token : TokenId → Except Fault String
  rule : RuleId → Except Fault String

mutual

def Matcher.text (naming : Naming) : Matcher → Except Fault String
  | .token id => naming.token id
  | .rule id => (naming.rule id).map fun name => "<" ++ name ++ ">"
  | .sequence parts => (Matcher.texts naming parts).map fun text => "(seq" ++ text ++ ")"
  | .choice alternatives =>
      (Matcher.texts naming alternatives).map fun text => "(alt" ++ text ++ ")"
  | .repeated bounds body =>
      (body.text naming).map fun text => "(occur " ++ bounds.text ++ " " ++ text ++ ")"

def Matcher.texts (naming : Naming) : List Matcher → Except Fault String
  | [] => .ok ""
  | part :: rest =>
      match part.text naming with
      | .error fault => .error fault
      | .ok first => (Matcher.texts naming rest).map fun text => " " ++ first ++ text

end

end TextGrammar
