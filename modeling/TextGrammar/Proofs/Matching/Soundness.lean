import TextGrammar.Proofs.Matching.Atomicity
import TextGrammar.Proofs.Matching.Finding

/-!
A run that comes to a verdict has found what there is to find: the cursor it ends at and
the events it has recorded are those of the finding.
-/

namespace TextGrammar

open Notation (Bounds)

namespace Recognizer

abbrev Finds (r : Recognizer) : Task → Nat → Finding → Prop :=
  TextGrammar.Finds r.table r.watch r.lexemes

/-- Whether an outcome is backed by what there is to find. A match that was given up says
nothing. -/
def Grounded (r : Recognizer) (task : Task) (before : Progress) : Outcome → Prop
  | ⟨.matched, after⟩ => ∃ forest, r.Finds task before.cursor (.matched after.cursor forest) ∧
      after.trail = before.trail.record forest.events
  | ⟨.failed, _⟩ => r.Finds task before.cursor .failed
  | ⟨.stopped _, _⟩ => True

def Sound (r : Recognizer) (run : Matcher → Progress → Outcome) : Prop :=
  ∀ matcher before, r.Grounded (.one matcher) before (run matcher before)

variable {r : Recognizer} {run : Matcher → Progress → Outcome}

theorem Grounded.undone {task : Task} {before : Progress} {outcome : Outcome} {place : Bookmark}
    (grounded : r.Grounded task before outcome) :
    r.Grounded task before (outcome.undone place) := by
  obtain ⟨verdict, after⟩ := outcome
  cases verdict with
  | matched | failed | stopped => exact grounded

theorem Grounded.imp {task other : Task} {before : Progress} {outcome : Outcome}
    (grounded : r.Grounded task before outcome)
    (same : ∀ finding, r.Finds task before.cursor finding →
      r.Finds other before.cursor finding) : r.Grounded other before outcome := by
  obtain ⟨verdict, after⟩ := outcome
  cases verdict with
  | matched =>
      obtain ⟨forest, found, recorded⟩ := grounded
      exact ⟨forest, same _ found, recorded⟩
  | failed => exact same _ grounded
  | stopped why => trivial

theorem Grounded.verdict_eq {task : Task} {before : Progress} {outcome : Outcome}
    {finding : Finding} (grounded : r.Grounded task before outcome)
    (found : r.Finds task before.cursor finding)
    (decided : ∀ why, outcome.verdict ≠ .stopped why) : outcome.verdict = finding.verdict := by
  obtain ⟨verdict, after⟩ := outcome
  cases verdict with
  | matched =>
      obtain ⟨forest, reached, -⟩ := grounded
      rw [← reached.unique found]
      rfl
  | failed =>
      rw [← Finds.unique grounded found]
      rfl
  | stopped why => exact absurd rfl (decided why)

theorem testToken_grounded (id : TokenId) (before : Progress) :
    r.Grounded (.one (.token id)) before (r.testToken id before) := by
  unfold testToken
  split
  · trivial
  · dsimp only [peek?]
    split
    · next isMatch =>
        obtain ⟨lexeme, here, same⟩ := (Option.any_eq_true _ _).mp isMatch
        have found : r.Finds (.one (.token id)) before.cursor
            (.matched (before.cursor + 1) (r.watch.tokenForest id before.cursor)) :=
          .token here (by simpa using same)
        by_cases watched : r.watch.watchesToken id = true
        · rw [if_pos watched]
          refine ⟨_, found, ?_⟩
          simp [Watch.tokenForest, watched, Forest.events, Trail.push_eq_record]
        · rw [if_neg watched]
          refine ⟨_, found, ?_⟩
          simp [Watch.tokenForest, watched, Forest.events]
    · next isOther =>
        refine .tokenOther fun lexeme here same => isOther ?_
        simp [here, same]

theorem runBody_grounded (conservative : Conservative run) (sound : r.Sound run) {id : RuleId}
    {rule : Rule} (declared : r.table.rule? id = some rule) (before : Progress) :
    r.Grounded (.one (.rule id)) before (r.runBody run id rule.matcher before) := by
  unfold runBody
  split
  · next watched =>
      have inner := sound rule.matcher
        { before with trail := before.trail.record [.rule id before.cursor] }
      have became := runWatched_cases conservative id rule.matcher before
      rcases ran : run rule.matcher
        { before with trail := before.trail.record [.rule id before.cursor] }
        with ⟨verdict, after⟩
      rw [ran] at inner became
      cases verdict with
      | matched =>
          obtain ⟨forest, found, recorded⟩ := inner
          obtain ⟨events, extended, closed⟩ := became
          -- the events of the body are those behind the rule's own
          rw [Trail.record_record, extended] at recorded
          have same := List.cons.inj (Trail.record_inj recorded)
          rw [closed]
          refine ⟨.rule id before.cursor after.cursor forest .nil, ?_, ?_⟩
          · simpa [Finding.under, watched] using Finds.rule declared found
          · simp [Forest.events, same.2]
      | failed =>
          rw [became]
          exact Finds.rule declared inner
      | stopped why => rw [became]; trivial
  · next unwatched =>
      have inner := sound rule.matcher before
      rcases ran : run rule.matcher before with ⟨verdict, after⟩
      rw [ran] at inner
      cases verdict with
      | matched =>
          obtain ⟨forest, found, recorded⟩ := inner
          exact ⟨forest, by simpa [Finding.under, unwatched] using Finds.rule declared found,
            recorded⟩
      | failed => exact Finds.rule declared inner
      | stopped why => trivial

theorem runRule_grounded (conservative : Conservative run) (sound : r.Sound run) (id : RuleId)
    (before : Progress) : r.Grounded (.one (.rule id)) before (r.runRule run id before) := by
  unfold runRule
  split
  · trivial
  · split
    · trivial
    · next rule declared =>
        have kept := runBody_atomic (r := r) conservative id rule.matcher (before.enter id)
        have inner := runBody_grounded conservative sound declared (before.enter id)
        rcases ran : r.runBody run id rule.matcher (before.enter id) with ⟨verdict, after⟩
        rw [ran] at kept inner
        cases verdict with
        | matched =>
            simp only [leaveRule_of_depth kept.1]
            exact inner
        | failed =>
            simp only [leaveRule_of_depth kept.1]
            exact inner
        | stopped why => trivial

theorem runParts_grounded (sound : r.Sound run) (parts : List Matcher) (before : Progress) :
    r.Grounded (.all parts) before (runParts run parts before) := by
  induction parts generalizing before with
  | nil => exact ⟨.nil, .allDone, by simp [Forest.events]⟩
  | cons part rest ih =>
      have head := sound part before
      rw [runParts]
      rcases ran : run part before with ⟨verdict, after⟩
      rw [ran] at head
      cases verdict with
      | matched =>
          obtain ⟨forest, found, recorded⟩ := head
          have tail := ih after
          dsimp only
          rcases others : runParts run rest after with ⟨verdict, last⟩
          rw [others] at tail
          cases verdict with
          | matched =>
              obtain ⟨behind, reached, added⟩ := tail
              refine ⟨forest.append behind, .allNext found reached, ?_⟩
              rw [added, recorded, Trail.record_record, Forest.events_append]
          | failed => exact .allNext found tail
          | stopped why => trivial
      | failed => exact .allFail head
      | stopped why => trivial

theorem runChoice_grounded (conservative : Conservative run) (sound : r.Sound run)
    (alternatives : List Matcher) (start before : Progress)
    (cursor : before.cursor = start.cursor) (trail : before.trail = start.trail)
    (observed : before.journal.isSome = start.journal.isSome) :
    r.Grounded (.first alternatives) start
      (runChoice run start.bookmark alternatives before) := by
  induction alternatives generalizing before with
  | nil => exact .firstNone
  | cons alternative rest ih =>
      have head := sound alternative before
      have first := conservative alternative before
      rw [runChoice]
      rcases ran : run alternative before with ⟨verdict, after⟩
      rw [ran] at head first
      cases verdict with
      | matched =>
          obtain ⟨forest, found, recorded⟩ := head
          rw [cursor] at found
          exact ⟨forest, .firstHit found, by rw [recorded, trail]⟩
      | failed =>
          obtain ⟨backCursor, backTrail, backObserved⟩ := first.retry cursor trail observed
          refine (ih _ backCursor backTrail backObserved).imp fun finding found => ?_
          exact .firstNext (cursor ▸ head) found
      | stopped why => trivial

theorem ended_grounded {bounds : Bounds} {body : Matcher} {count : Nat} {before after : Progress}
    (cursor : after.cursor = before.cursor) (trail : after.trail = before.trail)
    (found : r.Finds (.rounds bounds body count) before.cursor
      (.ofCount bounds count before.cursor)) :
    r.Grounded (.rounds bounds body count) before (ended bounds count after) := by
  unfold ended
  split
  · next few =>
      rw [Finding.ofCount, if_neg (Nat.not_le.mpr few)] at found
      exact found
  · next enough =>
      rw [Finding.ofCount, if_pos (Nat.not_lt.mp enough)] at found
      exact ⟨.nil, cursor ▸ found, by simp [trail, Forest.events]⟩

theorem repeatFrom_grounded (conservative : Conservative run) (sound : r.Sound run)
    (bounds : Bounds) (body : Matcher) (rounds count : Nat) (before : Progress) :
    r.Grounded (.rounds bounds body count) before
      (repeatFrom run bounds body rounds count before) := by
  induction rounds generalizing count before with
  | zero => trivial
  | succ rounds ih =>
      have head := sound body before
      have first := conservative body before
      rw [repeatFrom]
      split
      · next more =>
          rcases ran : run body before with ⟨verdict, after⟩
          rw [ran] at head first
          cases verdict with
          | stopped why => trivial
          | failed => exact ended_grounded first.2.1 first.2.2.1 (.roundsFail more head)
          | matched =>
              obtain ⟨forest, found, recorded⟩ := head
              dsimp only
              split
              · trivial
              · split
                · next still =>
                    -- an empty round counts for as many as are asked for
                    rw [still] at found
                    have enough : ¬ max (count + 1) bounds.least.toNat < bounds.least.toNat := by
                      omega
                    rw [ended, if_neg enough]
                    exact ⟨forest, by rw [still]; exact .roundsEmpty more found, recorded⟩
                · next moved =>
                    have tail := ih (count + 1) after
                    rcases others : repeatFrom run bounds body rounds (count + 1) after
                      with ⟨verdict, last⟩
                    rw [others] at tail
                    cases verdict with
                    | matched =>
                        obtain ⟨behind, reached, added⟩ := tail
                        refine ⟨forest.append behind, .roundsNext more found moved reached, ?_⟩
                        rw [added, recorded, Trail.record_record, Forest.events_append]
                    | failed => exact .roundsNext more found moved tail
                    | stopped why => trivial
      · next full =>
          exact ended_grounded rfl rfl (.roundsFull (by simpa using full))

theorem runMatcher_sound (conservative : Conservative run) (sound : r.Sound run) :
    r.Sound (r.runMatcher run) := by
  intro matcher before
  cases matcher with
  | token id => exact testToken_grounded id before
  | rule id => exact runRule_grounded conservative sound id before
  | sequence parts =>
      exact ((runParts_grounded sound parts before).imp fun _ found => .sequence found).undone
  | choice alternatives =>
      exact (runChoice_grounded conservative sound alternatives before before rfl rfl rfl).imp
        fun _ found => .choice found
  | repeated bounds body =>
      exact ((repeatFrom_grounded conservative sound bounds body (before.fuel + 1) 0 before).imp
        fun _ found => .repeated found).undone

theorem step_sound (conservative : Conservative run) (sound : r.Sound run) :
    r.Sound (r.step run) := by
  intro matcher before
  unfold step
  split
  · trivial
  · next fuel _ =>
      exact runMatcher_sound conservative sound matcher { before with fuel := fuel }

theorem tryWithin_sound (nesting : Nat) : r.Sound (r.tryWithin nesting) := by
  induction nesting with
  | zero => exact fun _ _ => trivial
  | succ nesting ih => exact step_sound (tryWithin_conservative nesting) ih

end Recognizer

end TextGrammar
