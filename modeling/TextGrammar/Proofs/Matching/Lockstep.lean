import TextGrammar.Proofs.Matching.Atomicity
import TextGrammar.Proofs.Rules.Range

/-!
Two runs side by side. Let a relation say which states of one run go with which of another. If
going back keeps states together and if the two runs test tokens and run rules alike, then they
do everything alike: what sequences, choices and repetitions do hangs on nothing but verdicts,
the fuel, and whether the cursor has moved. One of the runs may be given up earlier for a reason
that is pardoned.
-/

namespace TextGrammar

open Notation (Bounds)

/-- Whether two outcomes are the same verdict in states that go together, unless the first was
given up for a reason that is pardoned. -/
def Outcome.Alike (related : Progress → Progress → Prop) (pardoned : Stop → Prop)
    (left right : Outcome) : Prop :=
  (∃ why, left.verdict = .stopped why ∧ pardoned why) ∨
    (left.verdict = right.verdict ∧ related left.state right.state)

theorem Outcome.Alike.eq {pardoned : Stop → Prop} {left right : Outcome}
    (alike : left.Alike Eq pardoned right) :
    (∃ why, left.verdict = .stopped why ∧ pardoned why) ∨ left = right := by
  obtain ⟨verdict, after⟩ := left
  obtain ⟨same, behind⟩ := right
  rcases alike with stopped | ⟨agreed, kept⟩
  · exact .inl stopped
  · cases agreed
    cases kept
    exact .inr rfl

theorem Outcome.alike_iff {related : Progress → Progress → Prop} {verdict : Verdict}
    {after : Progress} {outcome : Outcome} :
    (⟨verdict, after⟩ : Outcome).Alike related (fun _ => False) outcome ↔
      ∃ behind, outcome = ⟨verdict, behind⟩ ∧ related after behind := by
  constructor
  · rintro (⟨_, _, ⟨⟩⟩ | ⟨agreed, kept⟩)
    obtain ⟨_, behind⟩ := outcome
    cases agreed
    exact ⟨behind, rfl, kept⟩
  · rintro ⟨behind, rfl, kept⟩
    exact .inr ⟨rfl, kept⟩

theorem Outcome.alike_map_iff (change : Progress → Progress) {left right : Outcome} :
    left.Alike (fun one other => other = change one) (fun _ => False) right ↔
      right = ⟨left.verdict, change left.state⟩ := by
  obtain ⟨verdict, after⟩ := left
  rw [alike_iff]
  constructor
  · rintro ⟨_, rfl, rfl⟩
    rfl
  · rintro rfl
    exact ⟨_, rfl, rfl⟩

theorem Progress.change_backtrack (change : Progress → Progress)
    (still : ∀ state, (change state).cursor = state.cursor)
    (note : ∀ state start stop,
      change (state.note (.backtrack start stop)) = (change state).note (.backtrack start stop))
    (restore : ∀ state place, change (state.restore place) = (change state).restore place)
    (state : Progress) (place : Bookmark) :
    change (state.backtrack place) = (change state).backtrack place := by
  unfold backtrack
  rw [still]
  split
  · exact restore state place
  · rw [restore, note]

/-- Whether states that go together stay together while nothing but fuel is spent and failures
go back. -/
structure Lockstep (related : Progress → Progress → Prop) : Prop where
  fuel : ∀ left right, related left right → left.fuel = right.fuel
  spend : ∀ left right fuel, related left right →
    related { left with fuel := fuel } { right with fuel := fuel }
  still : ∀ left right further onward, related left right → related further onward →
    (further.cursor = left.cursor ↔ onward.cursor = right.cursor)
  back : ∀ left right further onward, related left right → related further onward →
    left.Precedes further → right.Precedes onward →
    related (further.backtrack left.bookmark) (onward.backtrack right.bookmark)

def RunsAlike (table : RuleTable) (related : Progress → Progress → Prop)
    (pardoned : Stop → Prop) (left right : Matcher → Progress → Outcome) : Prop :=
  ∀ matcher, matcher.Within table → ∀ one other, related one other →
    (left matcher one).Alike related pardoned (right matcher other)

namespace Recognizer

variable {table : RuleTable} {related : Progress → Progress → Prop} {pardoned : Stop → Prop}
  {left right : Matcher → Progress → Outcome} {one other : Progress}

theorem runParts_alike (alike : RunsAlike table related pardoned left right)
    (parts : List Matcher) (within : Matcher.AllWithin table parts)
    (together : related one other) :
    (runParts left parts one).Alike related pardoned (runParts right parts other) := by
  induction parts generalizing one other with
  | nil => exact .inr ⟨rfl, together⟩
  | cons part rest ih =>
      have head := alike part within.1 one other together
      rw [runParts, runParts]
      rcases ran : left part one with ⟨verdict, after⟩
      rcases went : right part other with ⟨same, behind⟩
      rw [ran, went] at head
      rcases head with ⟨why, stopped, pardon⟩ | ⟨agreed, kept⟩
      · cases stopped
        exact .inl ⟨why, rfl, pardon⟩
      · cases agreed
        cases verdict with
        | matched => exact ih within.2 kept
        | failed => exact .inr ⟨rfl, kept⟩
        | stopped why => exact .inr ⟨rfl, kept⟩

theorem undone_alike (lockstep : Lockstep related) (together : related one other)
    {first second : Outcome} (orderly : first.Orderly one) (ordered : second.Orderly other)
    (alike : first.Alike related pardoned second) :
    (first.undone one.bookmark).Alike related pardoned (second.undone other.bookmark) := by
  obtain ⟨verdict, after⟩ := first
  obtain ⟨same, behind⟩ := second
  rcases alike with ⟨why, stopped, pardon⟩ | ⟨agreed, kept⟩
  · cases stopped
    exact .inl ⟨why, rfl, pardon⟩
  · cases agreed
    cases verdict with
    | failed => exact .inr ⟨rfl, lockstep.back _ _ _ _ together kept orderly.2 ordered.2⟩
    | matched => exact .inr ⟨rfl, kept⟩
    | stopped why => exact .inr ⟨rfl, kept⟩

theorem runSequence_alike (lockstep : Lockstep related) (keeps : Conservative left)
    (holds : Conservative right) (alike : RunsAlike table related pardoned left right)
    (parts : List Matcher) (within : Matcher.AllWithin table parts)
    (together : related one other) :
    (runSequence left parts one).Alike related pardoned (runSequence right parts other) :=
  undone_alike lockstep together (runParts_orderly keeps parts one)
    (runParts_orderly holds parts other) (runParts_alike alike parts within together)

theorem runChoice_alike (lockstep : Lockstep related) (keeps : Conservative left)
    (holds : Conservative right) (alike : RunsAlike table related pardoned left right)
    (alternatives : List Matcher) (within : Matcher.AllWithin table alternatives)
    (start begin : Progress) (together : related start begin)
    (cursor : one.cursor = start.cursor) (trail : one.trail = start.trail)
    (observed : one.journal.isSome = start.journal.isSome)
    (sameCursor : other.cursor = begin.cursor) (sameTrail : other.trail = begin.trail)
    (watched : other.journal.isSome = begin.journal.isSome) (here : related one other) :
    (runChoice left start.bookmark alternatives one).Alike related pardoned
      (runChoice right begin.bookmark alternatives other) := by
  induction alternatives generalizing one other with
  | nil => exact .inr ⟨rfl, here⟩
  | cons alternative rest ih =>
      have head := alike alternative within.1 one other here
      have first := keeps alternative one
      have second := holds alternative other
      rw [runChoice, runChoice]
      rcases ran : left alternative one with ⟨verdict, after⟩
      rcases went : right alternative other with ⟨same, behind⟩
      rw [ran, went] at head
      rw [ran] at first
      rw [went] at second
      rcases head with ⟨why, stopped, pardon⟩ | ⟨agreed, kept⟩
      · cases stopped
        exact .inl ⟨why, rfl, pardon⟩
      · cases agreed
        cases verdict with
        | failed =>
            -- both go back to where the first alternative began
            obtain ⟨backCursor, backTrail, backObserved⟩ := first.retry cursor trail observed
            obtain ⟨there, thereTrail, thereWatched⟩ :=
              second.retry sameCursor sameTrail watched
            apply ih within.2 backCursor backTrail backObserved there thereTrail thereWatched
            exact lockstep.back _ _ _ _ together kept (first.precedes cursor trail observed)
              (second.precedes sameCursor sameTrail watched)
        | matched => exact .inr ⟨rfl, kept⟩
        | stopped why => exact .inr ⟨rfl, kept⟩

theorem ended_alike (bounds : Bounds) (count : Nat) (together : related one other) :
    (ended bounds count one).Alike related pardoned (ended bounds count other) := by
  unfold ended
  by_cases few : count < bounds.least.toNat
  · rw [if_pos few, if_pos few]
    exact .inr ⟨rfl, together⟩
  · rw [if_neg few, if_neg few]
    exact .inr ⟨rfl, together⟩

theorem repeatFrom_alike (lockstep : Lockstep related)
    (alike : RunsAlike table related pardoned left right) (bounds : Bounds) (body : Matcher)
    (within : body.Within table) (rounds count : Nat) (together : related one other) :
    (repeatFrom left bounds body rounds count one).Alike related pardoned
      (repeatFrom right bounds body rounds count other) := by
  induction rounds generalizing count one other with
  | zero => exact .inr ⟨rfl, together⟩
  | succ rounds ih =>
      have head := alike body within one other together
      rw [repeatFrom, repeatFrom]
      by_cases more : bounds.allowsMore count = true
      · rw [if_pos more, if_pos more]
        rcases ran : left body one with ⟨verdict, after⟩
        rcases went : right body other with ⟨same, behind⟩
        rw [ran, went] at head
        rcases head with ⟨why, stopped, pardon⟩ | ⟨agreed, kept⟩
        · cases stopped
          exact .inl ⟨why, rfl, pardon⟩
        · cases agreed
          cases verdict with
          | stopped why => exact .inr ⟨rfl, kept⟩
          | failed => exact ended_alike bounds count kept
          | matched =>
              have still := lockstep.still _ _ _ _ together kept
              dsimp only
              -- both have counted as far, and their cursors have moved or stayed together
              by_cases full : UInt32.size ≤ count + 1
              · rw [if_pos full, if_pos full]
                exact .inr ⟨rfl, kept⟩
              · rw [if_neg full, if_neg full]
                by_cases stays : after.cursor = one.cursor
                · rw [if_pos stays, if_pos (still.mp stays)]
                  exact ended_alike bounds _ kept
                · rw [if_neg stays, if_neg (mt still.mpr stays)]
                  exact ih (count + 1) kept
      · rw [if_neg more, if_neg more]
        exact ended_alike bounds count together

theorem runRepeated_alike (lockstep : Lockstep related) (keeps : Conservative left)
    (holds : Conservative right) (alike : RunsAlike table related pardoned left right)
    (bounds : Bounds) (body : Matcher) (within : body.Within table)
    (together : related one other) :
    (runRepeated left bounds body one).Alike related pardoned
      (runRepeated right bounds body other) := by
  unfold runRepeated
  rw [lockstep.fuel one other together]
  exact undone_alike lockstep together (repeatFrom_orderly keeps bounds body _ 0 one)
    (repeatFrom_orderly holds bounds body _ 0 other)
    (repeatFrom_alike lockstep alike bounds body within _ 0 together)

structure Paired (r s : Recognizer) (related : Progress → Progress → Prop)
    (pardoned : Stop → Prop) : Prop where
  lockstep : Lockstep related
  token : ∀ id name, r.table.lexicon.name? id = some name → ∀ one other, related one other →
    (r.testToken id one).Alike related pardoned (s.testToken id other)
  rule : ∀ id rule, r.table.rule? id = some rule → ∀ left right, Conservative left →
    Conservative right → RunsAlike r.table related pardoned left right →
    ∀ one other, related one other →
    (r.runRule left id one).Alike related pardoned (s.runRule right id other)

variable {r s : Recognizer}

theorem Paired.runMatcher (paired : r.Paired s related pardoned) (keeps : Conservative left)
    (holds : Conservative right) (alike : RunsAlike r.table related pardoned left right) :
    RunsAlike r.table related pardoned (r.runMatcher left) (s.runMatcher right) := by
  intro matcher within one other together
  cases matcher with
  | token id =>
      obtain ⟨name, named⟩ := within
      exact paired.token id name named one other together
  | rule id =>
      obtain ⟨rule, declared⟩ := within
      exact paired.rule id rule declared left right keeps holds alike one other together
  | sequence parts =>
      exact runSequence_alike paired.lockstep keeps holds alike parts within together
  | choice alternatives =>
      exact runChoice_alike paired.lockstep keeps holds alike alternatives within one other
        together rfl rfl rfl rfl rfl rfl together
  | repeated bounds body =>
      exact runRepeated_alike paired.lockstep keeps holds alike bounds body within together

theorem Paired.step (paired : r.Paired s related pardoned) (keeps : Conservative left)
    (holds : Conservative right) (alike : RunsAlike r.table related pardoned left right) :
    RunsAlike r.table related pardoned (r.step left) (s.step right) := by
  intro matcher within one other together
  unfold Recognizer.step
  rw [← paired.lockstep.fuel one other together]
  cases one.fuel with
  | zero => exact .inr ⟨rfl, together⟩
  | succ fuel =>
      apply paired.runMatcher keeps holds alike matcher within
      exact paired.lockstep.spend one other fuel together

theorem Paired.tryWithin (paired : r.Paired s related pardoned) (nesting : Nat) :
    RunsAlike r.table related pardoned (r.tryWithin nesting) (s.tryWithin nesting) := by
  induction nesting with
  | zero => exact fun _ _ _ _ together => .inr ⟨rfl, together⟩
  | succ nesting ih =>
      exact paired.step (tryWithin_conservative nesting) (tryWithin_conservative nesting) ih

/-- What two recognizers with the same table and watch have to do alike to stay in lock-step. The
second one may allow more depth, if the first is pardoned for being too deep. -/
structure Companions (r s : Recognizer) (related : Progress → Progress → Prop)
    (pardoned : Stop → Prop) : Prop where
  lockstep : Lockstep related
  table : s.table = r.table
  watch : s.watch = r.watch
  room : r.limits.depth.toNat ≤ s.limits.depth.toNat
  full : s.limits.depth = r.limits.depth ∨ pardoned .depthExceeded
  depth : ∀ one other, related one other → one.depth = other.depth
  opens : ∀ id one other, related one other →
    related { one with trail := one.trail.record [.rule id one.cursor] }
      { other with trail := other.trail.record [.rule id other.cursor] }
  closes : ∀ id one other after behind events others, related one other → related after behind →
    after.trail = one.trail.record (.rule id one.cursor :: events) →
    behind.trail = other.trail.record (.rule id other.cursor :: others) →
    related
      { after with
        trail := one.trail.record (⟨.rule id, one.cursor, some after.cursor⟩ :: events) }
      { behind with
        trail := other.trail.record (⟨.rule id, other.cursor, some behind.cursor⟩ :: others) }
  enter : ∀ id rule, r.table.rule? id = some rule → ∀ one other, related one other →
    related (one.enter id) (other.enter id)
  leave : ∀ id rule, r.table.rule? id = some rule → ∀ one other depth matched,
    related one other →
    related ({ one with depth := depth }.note (.leave id one.cursor matched))
      ({ other with depth := depth }.note (.leave id other.cursor matched))
  token : ∀ id name, r.table.lexicon.name? id = some name → ∀ one other, related one other →
    (r.testToken id one).Alike related pardoned (s.testToken id other)

namespace Companions

variable {body : Matcher}

theorem runWatched_alike (companions : r.Companions s related pardoned)
    (keeps : Conservative left) (holds : Conservative right)
    (alike : RunsAlike r.table related pardoned left right) (within : body.Within r.table)
    (id : RuleId) (together : related one other) :
    (runWatched left id body one).Alike related pardoned (runWatched right id body other) := by
  have inner := alike body within _ _ (companions.opens id one other together)
  have first := keeps body { one with trail := one.trail.record [.rule id one.cursor] }
  have second := holds body { other with trail := other.trail.record [.rule id other.cursor] }
  have became := runWatched_cases keeps id body one
  have becameToo := runWatched_cases holds id body other
  rcases ran : left body { one with trail := one.trail.record [.rule id one.cursor] }
    with ⟨verdict, after⟩
  rcases went : right body { other with trail := other.trail.record [.rule id other.cursor] }
    with ⟨same, behind⟩
  rw [ran] at inner first became
  rw [went] at inner second becameToo
  rcases inner with ⟨why, stopped, pardon⟩ | ⟨agreed, kept⟩
  · cases stopped
    rw [became]
    exact .inl ⟨why, rfl, pardon⟩
  · cases agreed
    cases verdict with
    | matched =>
        obtain ⟨events, recorded, closed⟩ := became
        obtain ⟨others, recordedToo, closedToo⟩ := becameToo
        rw [closed, closedToo]
        exact .inr ⟨rfl, companions.closes id _ _ _ _ _ _ together kept recorded recordedToo⟩
    | failed =>
        -- the opened events are taken back with all that was recorded behind them
        rw [became, becameToo]
        refine .inr ⟨rfl, companions.lockstep.back _ _ _ _ together kept ?_ ?_⟩
        · exact ⟨Nat.le_of_eq first.2.1.symm, ⟨_, first.2.2.1⟩, first.2.2.2⟩
        · exact ⟨Nat.le_of_eq second.2.1.symm, ⟨_, second.2.2.1⟩, second.2.2.2⟩
    | stopped why =>
        rw [became, becameToo]
        exact .inr ⟨rfl, kept⟩

theorem runBody_alike (companions : r.Companions s related pardoned)
    (keeps : Conservative left) (holds : Conservative right)
    (alike : RunsAlike r.table related pardoned left right) (within : body.Within r.table)
    (id : RuleId) (together : related one other) :
    (r.runBody left id body one).Alike related pardoned (s.runBody right id body other) := by
  unfold runBody
  rw [companions.watch]
  split
  · exact companions.runWatched_alike keeps holds alike within id together
  · exact alike body within one other together

theorem runRule_alike (companions : r.Companions s related pardoned) (closed : r.table.Closed)
    {id : RuleId} {rule : Rule} (declared : r.table.rule? id = some rule)
    (keeps : Conservative left) (holds : Conservative right)
    (alike : RunsAlike r.table related pardoned left right) (together : related one other) :
    (r.runRule left id one).Alike related pardoned (s.runRule right id other) := by
  have room := companions.room
  have deep := companions.depth one other together
  unfold runRule
  rw [companions.table, declared]
  by_cases full : r.limits.depth.toNat ≤ one.depth
  · rw [if_pos full]
    -- the second one is too deep as well, unless it may go deeper
    rcases companions.full with same | pardon
    · rw [same, if_pos (deep ▸ full)]
      exact .inr ⟨rfl, together⟩
    · exact .inl ⟨_, rfl, pardon⟩
  · rw [if_neg full, if_neg (by omega)]
    dsimp only
    have inner := companions.runBody_alike keeps holds alike (closed id rule declared) id
      (companions.enter id rule declared one other together)
    have first := runBody_atomic (r := r) keeps id rule.matcher (one.enter id)
    have second := runBody_atomic (r := s) holds id rule.matcher (other.enter id)
    rcases ran : r.runBody left id rule.matcher (one.enter id) with ⟨verdict, after⟩
    rcases went : s.runBody right id rule.matcher (other.enter id) with ⟨same, behind⟩
    rw [ran] at inner first
    rw [went] at inner second
    rcases inner with ⟨why, stopped, pardon⟩ | ⟨agreed, kept⟩
    · cases stopped
      exact .inl ⟨why, rfl, pardon⟩
    · cases agreed
      cases verdict with
      | matched =>
          simp only [leaveRule_of_depth first.1, leaveRule_of_depth second.1, ← deep]
          exact .inr ⟨rfl, companions.leave id rule declared _ _ _ _ kept⟩
      | failed =>
          simp only [leaveRule_of_depth first.1, leaveRule_of_depth second.1, ← deep]
          exact .inr ⟨rfl, companions.leave id rule declared _ _ _ _ kept⟩
      | stopped why => exact .inr ⟨rfl, kept⟩

theorem paired (companions : r.Companions s related pardoned) (closed : r.table.Closed) :
    r.Paired s related pardoned where
  lockstep := companions.lockstep
  token := companions.token
  rule _ _ declared _ _ keeps holds alike _ _ together :=
    companions.runRule_alike closed declared keeps holds alike together

theorem run_alike (companions : r.Companions s related pardoned) (closed : r.table.Closed)
    {id : RuleId} {rule : Rule} (declared : r.table.rule? id = some rule)
    (fuel : s.limits.fuel = r.limits.fuel) (journal other : Option (Array Step))
    (together : related (.start r.limits journal) (.start s.limits other)) :
    (r.run id journal).Alike related pardoned (s.run id other) := by
  unfold run
  dsimp only
  rw [show (Progress.start s.limits other).fuel = (Progress.start r.limits journal).fuel from
    congrArg UInt32.toNat fuel]
  exact companions.runRule_alike closed declared (tryWithin_conservative _)
    (tryWithin_conservative _) ((companions.paired closed).tryWithin _) together

end Companions

end Recognizer

end TextGrammar
