import TextGrammar.Lexicon
import TextGrammar.Rules.Matcher
import TextGrammar.Rules.RuleError

/-!
Rule tables: the rules of a grammar in order of declaration, over a lexicon. A name in a
rule's body means the rule of that name if one is declared, wherever it stands, and a
token otherwise.
-/

namespace TextGrammar

open Notation (Phrase)

mutual

/-- Looks up the names of a phrase, or gives the first one that means nothing. Parentheses
leave no trace. -/
def resolve (rules : List String) (lexicon : Lexicon) : Phrase → Except String Matcher
  | .reference name =>
      match rules.idxOf? name with
      | some index => .ok (.rule (.ofIndex index))
      | none =>
          match lexicon.id? name with
          | some id => .ok (.token id)
          | none => .error name
  | .group inner => resolve rules lexicon inner
  | .repeated bounds body => (resolve rules lexicon body).map (.repeated bounds ·)
  | .sequence parts => (resolveAll rules lexicon parts).map .sequence
  | .choice alternatives => (resolveAll rules lexicon alternatives).map .choice

def resolveAll (rules : List String) (lexicon : Lexicon) :
    List Phrase → Except String (List Matcher)
  | [] => .ok []
  | phrase :: rest =>
      match resolve rules lexicon phrase with
      | .error name => .error name
      | .ok matcher => (resolveAll rules lexicon rest).map (matcher :: ·)

end

structure Rule where
  name : String
  body : String
  phrase : Phrase
  matcher : Matcher

def Rule.read (rules : List String) (lexicon : Lexicon) (name body : String) :
    Except RuleError Rule :=
  match Phrase.ofBody body with
  | .error error => .error (.body name error)
  | .ok phrase =>
      match resolve rules lexicon phrase with
      | .error unknown => .error (.unknownName name unknown)
      | .ok matcher => .ok ⟨name, body, phrase, matcher⟩

def firstRepeated? (seen : List String) : List String → Option String
  | [] => none
  | name :: rest => if name ∈ seen then some name else firstRepeated? (name :: seen) rest

structure RuleTable where
  lexicon : Lexicon
  rules : Array Rule

namespace RuleTable

/-- The table of a list of names and bodies. That there are rules and that their names
differ is checked before any body is read. -/
def ofRules (lexicon : Lexicon) (rules : List (String × String)) : Except RuleError RuleTable :=
  let names := rules.map (·.1)
  if rules.isEmpty then .error .noRules
  else match firstRepeated? [] names with
    | some name => .error (.duplicateRule name)
    | none =>
        match rules.mapM fun (name, body) => Rule.read names lexicon name body with
        | .error error => .error error
        | .ok rules => .ok ⟨lexicon, rules.toArray⟩

def names (table : RuleTable) : List String := table.rules.toList.map (·.name)

def size (table : RuleTable) : Nat := table.rules.size

def start (_ : RuleTable) : RuleId := .ofIndex 0

def ruleId? (table : RuleTable) (name : String) : Option RuleId :=
  (table.names.idxOf? name).map RuleId.ofIndex

def rule? (table : RuleTable) (id : RuleId) : Option Rule := table.rules[id.index]?

def ruleOf (table : RuleTable) (id : RuleId) : Except Fault Rule :=
  match table.rule? id with
  | some rule => .ok rule
  | none => .error (.ruleOutOfRange id)

def ruleName (table : RuleTable) (id : RuleId) : Except Fault String :=
  (table.ruleOf id).map (·.name)

def tokenName (table : RuleTable) (id : TokenId) : Except Fault String :=
  table.lexicon.nameOf id

theorem ruleName_of_rule? {table : RuleTable} {id : RuleId} {rule : Rule}
    (declared : table.rule? id = some rule) : table.ruleName id = .ok rule.name := by
  simp [ruleName, ruleOf, declared, Except.map]

theorem tokenName_of_name? {table : RuleTable} {id : TokenId} {name : String}
    (named : table.lexicon.name? id = some name) : table.tokenName id = .ok name := by
  simp [tokenName, Lexicon.nameOf, named]

def naming (table : RuleTable) : Naming where
  token := table.tokenName
  rule := table.ruleName

def format (table : RuleTable) (matcher : Matcher) : Except Fault String :=
  matcher.text table.naming

def listing (table : RuleTable) : Except Fault String :=
  (table.rules.toList.mapM fun rule =>
    (table.format rule.matcher).map fun text => rule.name ++ " = " ++ text ++ "\n").map
      (String.join ·)

end RuleTable

end TextGrammar
