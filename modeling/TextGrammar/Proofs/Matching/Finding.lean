import TextGrammar.Matching.Recognizer
import TextGrammar.Proofs.Matching.Forest

/-!
What a matcher finds at a cursor, told without fuel, depth, trail or going back. A finding
is a failure, or the cursor behind the match with the forest of what is watched in it. The
rules below are those of ordered choice: of alternatives the first that matches counts, and
a repetition takes all it can. They give at most one finding, and its forest fits between
the cursors.
-/

namespace TextGrammar

open Notation (Bounds)

inductive Task where
  | one (matcher : Matcher)
  | all (parts : List Matcher)
  | first (alternatives : List Matcher)
  /-- The repetitions that are left after `count` of them. -/
  | rounds (bounds : Bounds) (body : Matcher) (count : Nat)

inductive Finding where
  | matched (cursor : Nat) (forest : Forest)
  | failed
  deriving DecidableEq, Repr

namespace Finding

def after (front : Forest) : Finding → Finding
  | .matched cursor forest => .matched cursor (front.append forest)
  | .failed => .failed

def under (watch : Watch) (id : RuleId) (start : Nat) : Finding → Finding
  | .matched cursor inner =>
      .matched cursor (if watch.watchesRule id then .rule id start cursor inner .nil else inner)
  | .failed => .failed

def ofCount (bounds : Bounds) (count cursor : Nat) : Finding :=
  if bounds.least.toNat ≤ count then .matched cursor .nil else .failed

def verdict : Finding → Verdict
  | .matched _ _ => .matched
  | .failed => .failed

def cursorFrom (start : Nat) : Finding → Nat
  | .matched cursor _ => cursor
  | .failed => start

def events : Finding → List Event
  | .matched _ forest => forest.events
  | .failed => []

@[simp] theorem verdict_after (front : Forest) (finding : Finding) :
    (finding.after front).verdict = finding.verdict := by cases finding <;> rfl

@[simp] theorem verdict_under (watch : Watch) (id : RuleId) (start : Nat) (finding : Finding) :
    (finding.under watch id start).verdict = finding.verdict := by cases finding <;> rfl

end Finding

def Watch.tokenForest (watch : Watch) (id : TokenId) (cursor : Nat) : Forest :=
  if watch.watchesToken id then .token id cursor .nil else .nil

/-- What a task finds at a cursor, with the rules of a table and over given lexemes. -/
inductive Finds (table : RuleTable) (watch : Watch) (lexemes : Array Lexeme) :
    Task → Nat → Finding → Prop where
  | token {id : TokenId} {cursor : Nat} {lexeme : Lexeme}
      (here : lexemes[cursor]? = some lexeme) (same : lexeme.id = id) :
      Finds table watch lexemes (.one (.token id)) cursor
        (.matched (cursor + 1) (watch.tokenForest id cursor))
  | tokenOther {id : TokenId} {cursor : Nat}
      (other : ∀ lexeme, lexemes[cursor]? = some lexeme → lexeme.id ≠ id) :
      Finds table watch lexemes (.one (.token id)) cursor .failed
  | rule {id : RuleId} {cursor : Nat} {rule : Rule} {finding : Finding}
      (declared : table.rule? id = some rule)
      (body : Finds table watch lexemes (.one rule.matcher) cursor finding) :
      Finds table watch lexemes (.one (.rule id)) cursor (finding.under watch id cursor)
  | sequence {parts : List Matcher} {cursor : Nat} {finding : Finding}
      (found : Finds table watch lexemes (.all parts) cursor finding) :
      Finds table watch lexemes (.one (.sequence parts)) cursor finding
  | allDone {cursor : Nat} : Finds table watch lexemes (.all []) cursor (.matched cursor .nil)
  | allFail {part : Matcher} {rest : List Matcher} {cursor : Nat}
      (head : Finds table watch lexemes (.one part) cursor .failed) :
      Finds table watch lexemes (.all (part :: rest)) cursor .failed
  | allNext {part : Matcher} {rest : List Matcher} {cursor next : Nat} {forest : Forest}
      {finding : Finding}
      (head : Finds table watch lexemes (.one part) cursor (.matched next forest))
      (tail : Finds table watch lexemes (.all rest) next finding) :
      Finds table watch lexemes (.all (part :: rest)) cursor (finding.after forest)
  | choice {alternatives : List Matcher} {cursor : Nat} {finding : Finding}
      (found : Finds table watch lexemes (.first alternatives) cursor finding) :
      Finds table watch lexemes (.one (.choice alternatives)) cursor finding
  | firstNone {cursor : Nat} : Finds table watch lexemes (.first []) cursor .failed
  | firstHit {alternative : Matcher} {rest : List Matcher} {cursor next : Nat}
      {forest : Forest}
      (head : Finds table watch lexemes (.one alternative) cursor (.matched next forest)) :
      Finds table watch lexemes (.first (alternative :: rest)) cursor (.matched next forest)
  | firstNext {alternative : Matcher} {rest : List Matcher} {cursor : Nat} {finding : Finding}
      (head : Finds table watch lexemes (.one alternative) cursor .failed)
      (tail : Finds table watch lexemes (.first rest) cursor finding) :
      Finds table watch lexemes (.first (alternative :: rest)) cursor finding
  | repeated {bounds : Bounds} {body : Matcher} {cursor : Nat} {finding : Finding}
      (found : Finds table watch lexemes (.rounds bounds body 0) cursor finding) :
      Finds table watch lexemes (.one (.repeated bounds body)) cursor finding
  | roundsFull {bounds : Bounds} {body : Matcher} {count cursor : Nat}
      (full : bounds.allowsMore count = false) :
      Finds table watch lexemes (.rounds bounds body count) cursor (.ofCount bounds count cursor)
  | roundsFail {bounds : Bounds} {body : Matcher} {count cursor : Nat}
      (more : bounds.allowsMore count = true)
      (head : Finds table watch lexemes (.one body) cursor .failed) :
      Finds table watch lexemes (.rounds bounds body count) cursor (.ofCount bounds count cursor)
  /-- A round that takes no lexeme is the last, and stands for all that are asked for. -/
  | roundsEmpty {bounds : Bounds} {body : Matcher} {count cursor : Nat} {forest : Forest}
      (more : bounds.allowsMore count = true)
      (head : Finds table watch lexemes (.one body) cursor (.matched cursor forest)) :
      Finds table watch lexemes (.rounds bounds body count) cursor (.matched cursor forest)
  | roundsNext {bounds : Bounds} {body : Matcher} {count cursor next : Nat} {forest : Forest}
      {finding : Finding} (more : bounds.allowsMore count = true)
      (head : Finds table watch lexemes (.one body) cursor (.matched next forest))
      (moved : next ≠ cursor)
      (tail : Finds table watch lexemes (.rounds bounds body (count + 1)) next finding) :
      Finds table watch lexemes (.rounds bounds body count) cursor (finding.after forest)

theorem Finds.unique {table : RuleTable} {watch : Watch} {lexemes : Array Lexeme} {task : Task}
    {cursor : Nat} {left right : Finding} (one : Finds table watch lexemes task cursor left)
    (other : Finds table watch lexemes task cursor right) : left = right := by
  -- the parts decide how the other finding was made: what they find is unique by induction
  induction one generalizing right with
  | token here same =>
      cases other with
      | token _ _ => rfl
      | tokenOther different => exact absurd same (different _ here)
  | tokenOther different =>
      cases other with
      | token here same => exact absurd same (different _ here)
      | tokenOther _ => rfl
  | rule declared _ ih =>
      cases other with
      | rule found body =>
          rw [declared, Option.some.injEq] at found
          subst found
          rw [ih body]
  | sequence _ ih => cases other with | sequence found => exact ih found
  | allDone => cases other with | allDone => rfl
  | allFail _ ih =>
      cases other with
      | allFail _ => rfl
      | allNext head _ => cases ih head
  | allNext _ _ ihHead ihTail =>
      cases other with
      | allFail head => cases ihHead head
      | allNext head tail =>
          cases ihHead head
          rw [ihTail tail]
  | choice _ ih => cases other with | choice found => exact ih found
  | firstNone => cases other with | firstNone => rfl
  | firstHit _ ih =>
      cases other with
      | firstHit head => exact ih head
      | firstNext head _ => cases ih head
  | firstNext _ _ ihHead ihTail =>
      cases other with
      | firstHit head => cases ihHead head
      | firstNext _ tail => exact ihTail tail
  | repeated _ ih => cases other with | repeated found => exact ih found
  | roundsFull full =>
      cases other with
      | roundsFull _ => rfl
      | roundsFail more _ | roundsEmpty more _ | roundsNext more _ _ _ =>
          simp [full] at more
  | roundsFail more _ ih =>
      cases other with
      | roundsFull full => simp [full] at more
      | roundsFail _ _ => rfl
      | roundsEmpty _ head | roundsNext _ head _ _ => cases ih head
  | roundsEmpty more _ ih =>
      cases other with
      | roundsFull full => simp [full] at more
      | roundsFail _ head => cases ih head
      | roundsEmpty _ head => exact ih head
      | roundsNext _ head moved _ =>
          cases ih head
          exact absurd rfl moved
  | roundsNext more _ moved _ ihHead ihTail =>
      cases other with
      | roundsFull full => simp [full] at more
      | roundsFail _ head => cases ihHead head
      | roundsEmpty _ head =>
          cases ihHead head
          exact absurd rfl moved
      | roundsNext _ head _ tail =>
          cases ihHead head
          rw [ihTail tail]

end TextGrammar
