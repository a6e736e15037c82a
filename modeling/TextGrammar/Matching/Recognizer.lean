import TextGrammar.Matching.Progress
import TextGrammar.Matching.Watch

/-!
Matching lexemes against matchers. Alternatives are tried in order and the first that
matches is kept, and a repetition takes what it can and gives nothing back. An attempt
that fails leaves the cursor and the trail as it found them. Every matcher that is tried
costs one unit of fuel, and a match stops where fuel or depth runs out.
-/

namespace TextGrammar

open Notation (Bounds)

inductive Stop where
  | fuelExhausted
  | depthExceeded
  | fault (fault : Fault)
  deriving DecidableEq, Repr

inductive Verdict where
  | matched
  | failed
  | stopped (why : Stop)
  deriving DecidableEq, Repr

structure Outcome where
  verdict : Verdict
  state : Progress
  deriving DecidableEq, Repr

def Outcome.undone (place : Bookmark) : Outcome → Outcome
  | ⟨.failed, state⟩ => ⟨.failed, state.backtrack place⟩
  | outcome => outcome

structure Recognizer where
  table : RuleTable
  watch : Watch
  limits : Limits
  lexemes : Array Lexeme

namespace Recognizer

def peek? (r : Recognizer) (state : Progress) : Option Lexeme := r.lexemes[state.cursor]?

def next (r : Recognizer) (state : Progress) : Option Lexeme × Progress :=
  match r.peek? state with
  | some lexeme => (some lexeme, { state with cursor := state.cursor + 1 })
  | none => (none, state)

def atEnd (r : Recognizer) (state : Progress) : Bool := r.lexemes.size ≤ state.cursor

/-- Asks for a lexeme of a definition. Where steps are observed the definition must have a
name to be observed under. -/
def testToken (r : Recognizer) (id : TokenId) (state : Progress) : Outcome :=
  if state.journal.isSome && (r.table.lexicon.name? id).isNone then
    ⟨.stopped (.fault (.tokenOutOfRange id)), state⟩
  else
    let cursor := state.cursor
    let found := r.peek? state
    let isMatch := found.any (·.id = id)
    let state := state.note (.test id cursor found isMatch)
    if isMatch then
      let state := { state with cursor := cursor + 1 }
      if r.watch.watchesToken id then
        ⟨.matched, { state with trail := state.trail.push (.token id cursor) }⟩
      else ⟨.matched, state⟩
    else ⟨.failed, state⟩

def runWatched (run : Matcher → Progress → Outcome) (id : RuleId) (body : Matcher)
    (state : Progress) : Outcome :=
  let place := state.bookmark
  match run body { state with trail := state.trail.push (.rule id state.cursor) } with
  | ⟨.matched, state⟩ =>
      match state.trail.close place.watermark state.cursor with
      | .ok trail => ⟨.matched, { state with trail := trail }⟩
      | .error fault => ⟨.stopped (.fault fault), state⟩
  | ⟨.failed, state⟩ => ⟨.failed, state.backtrack place⟩
  | ⟨.stopped why, state⟩ => ⟨.stopped why, state⟩

def leaveRule (id : RuleId) (matched : Bool) (state : Progress) : Outcome :=
  match state.depth with
  | 0 => ⟨.stopped (.fault .countUnderflow), state⟩
  | depth + 1 =>
      let state := { state with depth := depth }
      ⟨if matched then .matched else .failed, state.note (.leave id state.cursor matched)⟩

def runBody (r : Recognizer) (run : Matcher → Progress → Outcome) (id : RuleId)
    (body : Matcher) (state : Progress) : Outcome :=
  if r.watch.watchesRule id then runWatched run id body state else run body state

def runRule (r : Recognizer) (run : Matcher → Progress → Outcome) (id : RuleId)
    (state : Progress) : Outcome :=
  if r.limits.depth.toNat ≤ state.depth then ⟨.stopped .depthExceeded, state⟩
  else
    match r.table.rule? id with
    | none => ⟨.stopped (.fault (.ruleOutOfRange id)), { state with depth := state.depth + 1 }⟩
    | some rule =>
        match r.runBody run id rule.matcher (state.enter id) with
        | ⟨.matched, state⟩ => leaveRule id true state
        | ⟨.failed, state⟩ => leaveRule id false state
        | ⟨.stopped why, state⟩ => ⟨.stopped why, state⟩

def runParts (run : Matcher → Progress → Outcome) : List Matcher → Progress → Outcome
  | [], state => ⟨.matched, state⟩
  | part :: rest, state =>
      match run part state with
      | ⟨.matched, state⟩ => runParts run rest state
      | outcome => outcome

def runSequence (run : Matcher → Progress → Outcome) (parts : List Matcher)
    (state : Progress) : Outcome :=
  (runParts run parts state).undone state.bookmark

def runChoice (run : Matcher → Progress → Outcome) (place : Bookmark) :
    List Matcher → Progress → Outcome
  | [], state => ⟨.failed, state⟩
  | alternative :: rest, state =>
      match run alternative state with
      | ⟨.failed, state⟩ => runChoice run place rest (state.backtrack place)
      | outcome => outcome

def ended (bounds : Bounds) (count : Nat) (state : Progress) : Outcome :=
  if count < bounds.least.toNat then ⟨.failed, state⟩ else ⟨.matched, state⟩

/-- Repeats a matcher as often as it matches and the bounds allow, after `count`
repetitions. One that takes no lexeme is the last, and stands for all that the lower bound
asks for. `rounds` bounds the number of repetitions from above. -/
def repeatFrom (run : Matcher → Progress → Outcome) (bounds : Bounds) (body : Matcher) :
    (rounds count : Nat) → Progress → Outcome
  | 0, _, state => ⟨.stopped .fuelExhausted, state⟩
  | rounds + 1, count, state =>
      if bounds.allowsMore count then
        let cursor := state.cursor
        match run body state with
        | ⟨.stopped why, state⟩ => ⟨.stopped why, state⟩
        | ⟨.failed, state⟩ => ended bounds count state
        | ⟨.matched, state⟩ =>
            if UInt32.size ≤ count + 1 then ⟨.stopped (.fault .countOverflow), state⟩
            else if state.cursor = cursor then
              ended bounds (max (count + 1) bounds.least.toNat) state
            else repeatFrom run bounds body rounds (count + 1) state
      else ended bounds count state

def runRepeated (run : Matcher → Progress → Outcome) (bounds : Bounds) (body : Matcher)
    (state : Progress) : Outcome :=
  (repeatFrom run bounds body (state.fuel + 1) 0 state).undone state.bookmark

def runMatcher (r : Recognizer) (run : Matcher → Progress → Outcome) (matcher : Matcher)
    (state : Progress) : Outcome :=
  match matcher with
  | .token id => r.testToken id state
  | .rule id => r.runRule run id state
  | .sequence parts => runSequence run parts state
  | .choice alternatives => runChoice run state.bookmark alternatives state
  | .repeated bounds body => runRepeated run bounds body state

def step (r : Recognizer) (run : Matcher → Progress → Outcome) (matcher : Matcher)
    (state : Progress) : Outcome :=
  match state.fuel with
  | 0 => ⟨.stopped .fuelExhausted, state⟩
  | fuel + 1 => r.runMatcher run matcher { state with fuel := fuel }

def tryWithin (r : Recognizer) : Nat → Matcher → Progress → Outcome
  | 0, _, state => ⟨.stopped .fuelExhausted, state⟩
  | nesting + 1, matcher, state => r.step (r.tryWithin nesting) matcher state

/-- Tries a matcher at the cursor. Since each nested matcher costs fuel, the fuel bounds
how deeply matchers can be nested. -/
def attempt (r : Recognizer) (matcher : Matcher) (state : Progress) : Outcome :=
  r.tryWithin state.fuel matcher state

def run (r : Recognizer) (id : RuleId) (journal : Option (Array Step)) : Outcome :=
  let state := Progress.start r.limits journal
  r.runRule (r.tryWithin state.fuel) id state

end Recognizer

end TextGrammar
