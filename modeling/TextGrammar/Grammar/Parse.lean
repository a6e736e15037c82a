import TextGrammar.Grammar.Basic
import TextGrammar.Matching.Journal
import TextGrammar.Matching.Recognizer
import TextGrammar.Replay
import TextGrammar.Scanner

/-!
What a grammar does with a text. The text is cut into lexemes, a rule is matched against
them from the first one on, and what was recorded is replayed: into the hooks, or into an
outline that shows every rule and token. The rule is looked up before the text is cut.
-/

namespace TextGrammar

inductive ParseError where
  | unknownRule (name : String)
  | lexical (error : LexicalError)
  | stopped (why : Stop)
  deriving DecidableEq, Repr

def Stop.message : Stop → String
  | fuelExhausted => "runtime execution limit exceeded"
  | depthExceeded => "runtime recursion limit exceeded"
  | fault cause => cause.message

def ParseError.message : ParseError → String
  | unknownRule name => s!"unknown rule `{name}`"
  | lexical error => error.message
  | stopped why => why.message

structure ParseOutcome where
  matched : Bool
  cursor : Nat
  lexemes : Nat
  deriving DecidableEq, Repr

namespace ParseOutcome

def atEnd (outcome : ParseOutcome) : Bool := outcome.lexemes ≤ outcome.cursor

def isComplete (outcome : ParseOutcome) : Bool := outcome.matched && outcome.atEnd

def text (outcome : ParseOutcome) : String :=
  if outcome.isComplete then "accepted"
  else if outcome.matched then
    "accepted, stopped at @" ++ toString outcome.cursor ++ " of " ++
      toString outcome.lexemes ++ " tokens"
  else "rejected"

end ParseOutcome

structure Recognition where
  lexemes : Array Lexeme
  matched : Bool
  state : Progress

def Recognition.outcome (recognition : Recognition) : ParseOutcome :=
  ⟨recognition.matched, recognition.state.cursor, recognition.lexemes.size⟩

def Recognition.replay (recognition : Recognition) : Replay :=
  recognition.state.trail.replay recognition.lexemes

/-- The lines of an outline, starting at some depth: the rules entered and the lexemes with
their text. It is a fault if something has no name or if more rules are left than were entered. -/
def outlineFrom (table : RuleTable) : Nat → List Call → Except Fault (List String)
  | _, [] => .ok []
  | depth, .enter event :: rest =>
      match event.ruleId? with
      | none => outlineFrom table (depth + 1) rest
      | some id =>
          match table.ruleName id with
          | .error fault => .error fault
          | .ok name => (outlineFrom table (depth + 1) rest).map (indented depth name :: ·)
  | 0, .leave _ :: _ => .error .countUnderflow
  | depth + 1, .leave _ :: rest => outlineFrom table depth rest
  | depth, .token _ lexeme :: rest =>
      match table.tokenName lexeme.id with
      | .error fault => .error fault
      | .ok name =>
          (outlineFrom table depth rest).map
            (indented depth (name ++ " " ++ Text.quoted lexeme.text) :: ·)

def unlines (lines : List String) : String := String.join (lines.map (· ++ "\n"))

namespace Grammar

variable {Context : Type}

def startRule (grammar : Grammar Context) : Except Fault String :=
  grammar.table.ruleName grammar.table.start

def tokenize (grammar : Grammar Context) (text : String) : Except LexicalError (List Lexeme) :=
  grammar.table.lexicon.tokenize grammar.ignore text.toList

def ruleNamed (grammar : Grammar Context) : Option String → Except ParseError RuleId
  | none => .ok grammar.table.start
  | some name =>
      match grammar.table.ruleId? name with
      | some id => .ok id
      | none => .error (.unknownRule name)

def recognize (grammar : Grammar Context) (watch : Watch) (journal : Option (Array Step))
    (text : String) (rule : Option String) : Except ParseError Recognition :=
  match grammar.ruleNamed rule with
  | .error error => .error error
  | .ok id =>
      match grammar.tokenize text with
      | .error error => .error (.lexical error)
      | .ok lexemes =>
          let lexemes := lexemes.toArray
          let r : Recognizer := ⟨grammar.table, watch, grammar.limits, lexemes⟩
          match r.run id journal with
          | ⟨.matched, state⟩ => .ok ⟨lexemes, true, state⟩
          | ⟨.failed, state⟩ => .ok ⟨lexemes, false, state⟩
          | ⟨.stopped why, _⟩ => .error (.stopped why)

def invoke (grammar : Grammar Context) (context : Context) : Call → Context
  | .enter event => visit .enter event
  | .leave event => visit .leave event
  | .token event lexeme =>
      match grammar.tokenHooks[lexeme.id.index]? with
      | some (some hook) => hook (String.ofList lexeme.text) event context
      | _ => context
where
  visit (side : Visit) (event : Event) : Context :=
    match event.ruleId? with
    | none => context
    | some id =>
        match grammar.ruleHooks[id.index]? with
        | some (some hook) => hook side event context
        | _ => context

/-- Matches a rule against a text and replays what was accepted into the hooks, which change the
context. The match may end before the text does, which the outcome tells. -/
def parse (grammar : Grammar Context) (text : String) (rule : Option String)
    (context : Context) : Except ParseError ParseOutcome × Context :=
  match grammar.recognize grammar.watch none text rule with
  | .error error => (.error error, context)
  | .ok recognition =>
      if recognition.matched then
        let replay := recognition.replay
        let context := replay.calls.foldl grammar.invoke context
        match replay.fault with
        | some fault => (.error (.stopped (.fault fault)), context)
        | none => (.ok recognition.outcome, context)
      else (.ok recognition.outcome, context)

def parseText (grammar : Grammar Context) (text : String) (rule : Option String)
    (context : Context) : Except ParseError Bool × Context :=
  let (result, context) := grammar.parse text rule context
  (result.map (·.matched), context)

def accepts (grammar : Grammar Context) (text : String) (rule : Option String) :
    Except ParseError Bool :=
  match grammar.recognize .none none text rule with
  | .error error => .error error
  | .ok recognition => .ok recognition.outcome.isComplete

def outline (grammar : Grammar Context) (text : String) (rule : Option String) :
    Except ParseError (Option String) :=
  match grammar.recognize (.all grammar.table) none text rule with
  | .error error => .error error
  | .ok recognition =>
      if recognition.matched then
        let replay := recognition.replay
        match outlineFrom grammar.table 0 replay.calls, replay.fault with
        | .error fault, _ | .ok _, some fault => .error (.stopped (.fault fault))
        | .ok lines, none => .ok (some (unlines lines))
      else .ok none

/-- Every step of a match, a line each, and the outcome in words. -/
def trace (grammar : Grammar Context) (text : String) (rule : Option String) :
    Except ParseError String :=
  match grammar.recognize grammar.watch (some #[]) text rule with
  | .error error => .error error
  | .ok recognition =>
      match grammar.table.journalLines (recognition.state.journal.getD #[]) with
      | .error fault => .error (.stopped (.fault fault))
      | .ok lines => .ok (unlines (lines ++ [recognition.outcome.text]))

end Grammar

end TextGrammar
