import TextGrammar.Proofs.Matching.Restriction
import TextGrammar.Proofs.Matching.Soundness

/-!
What there is to find has a price: so much fuel, and so many rules inside one another. A
run that can pay finds it and spends exactly that fuel, and a run that cannot is given up.
The price depends on the task, the lexemes and the cursor alone. With the converse, that a
verdict is always backed by a finding, running and finding are the same.
-/

namespace TextGrammar

open Notation (Bounds)

def Task.Within (table : RuleTable) : Task → Prop
  | .one matcher => matcher.Within table
  | .all parts => Matcher.AllWithin table parts
  | .first alternatives => Matcher.AllWithin table alternatives
  | .rounds _ body _ => body.Within table

namespace Recognizer

def Affords (r : Recognizer) (need reach : Nat) (state : Progress) : Prop :=
  need ≤ state.fuel ∧ reach ≤ r.limits.depth.toNat - state.depth

/-- Whether an outcome is a verdict at its price, or for want of fuel or depth none. -/
structure Priced (r : Recognizer) (verdict : Verdict) (need reach : Nat) (before : Progress)
    (outcome : Outcome) : Prop where
  paid : r.Affords need reach before →
    outcome.verdict = verdict ∧ outcome.state.fuel + need = before.fuel
  unpaid : ¬ r.Affords need reach before →
    outcome.verdict = .stopped .fuelExhausted ∨ outcome.verdict = .stopped .depthExceeded

/-- Whether a state is one from which a task can be run at a cursor: there is nesting for
all of the fuel, counters do not overflow, and steps are noted only where all numbers have
names. -/
structure Ready (r : Recognizer) (task : Task) (cursor nesting : Nat) (before : Progress) :
    Prop where
  cursor : before.cursor = cursor
  nesting : before.fuel ≤ nesting
  small : before.fuel < UInt32.size
  named : before.journal.isSome = true → r.table.Closed ∧ task.Within r.table

variable {r : Recognizer} {verdict other : Verdict} {need reach more further : Nat}
  {before after : Progress} {outcome : Outcome}

theorem Priced.free : r.Priced verdict 0 0 before ⟨verdict, before⟩ where
  paid _ := ⟨rfl, rfl⟩
  unpaid short := absurd ⟨Nat.zero_le _, Nat.zero_le _⟩ short

theorem Priced.undone {place : Bookmark} (priced : r.Priced verdict need reach before outcome) :
    r.Priced verdict need reach before (outcome.undone place) := by
  obtain ⟨found, after⟩ := outcome
  cases found with
  | failed => exact ⟨fun afford => by simpa [Outcome.undone] using priced.paid afford,
      fun short => by simpa [Outcome.undone] using priced.unpaid short⟩
  | matched | stopped => exact priced

theorem Priced.settled (priced : r.Priced verdict need reach before ⟨other, after⟩)
    (decided : ∀ why, other ≠ .stopped why) :
    r.Affords need reach before ∧ other = verdict ∧ after.fuel + need = before.fuel := by
  by_cases afford : r.Affords need reach before
  · exact ⟨afford, priced.paid afford⟩
  · rcases priced.unpaid afford with stopped | stopped
    · exact absurd stopped (decided _)
    · exact absurd stopped (decided _)

theorem Priced.eq (priced : r.Priced verdict need reach before ⟨other, after⟩)
    (decided : ∀ why, other ≠ .stopped why) : other = verdict :=
  (priced.settled decided).2.1

theorem Priced.next (first : r.Priced verdict need reach before ⟨verdict, after⟩)
    (decided : ∀ why, verdict ≠ .stopped why) (depth : after.depth = before.depth)
    (second : r.Priced other more further after outcome) :
    r.Priced other (need + more) (max reach further) before outcome := by
  obtain ⟨⟨fuel, room⟩, -, spent⟩ := first.settled decided
  -- having paid for the first, whoever can pay for both can pay for the second
  have shift : r.Affords (need + more) (max reach further) before ↔
      r.Affords more further after := by
    unfold Affords
    rw [depth]
    omega
  constructor
  · intro afford
    obtain ⟨same, left⟩ := second.paid (shift.mp afford)
    exact ⟨same, by omega⟩
  · intro short
    exact second.unpaid fun afford => short (shift.mpr afford)

theorem Priced.stop {why : Stop} {last : Progress}
    (first : r.Priced verdict need reach before ⟨.stopped why, after⟩)
    (decided : ∀ why, verdict ≠ .stopped why) :
    r.Priced other (need + more) (max reach further) before ⟨.stopped why, last⟩ := by
  have short : ¬ r.Affords need reach before := fun afford =>
    decided why (first.paid afford).1.symm
  refine ⟨fun afford => absurd ⟨?_, ?_⟩ short, fun _ => first.unpaid short⟩
  · exact Nat.le_trans (Nat.le_add_right need more) afford.1
  · exact Nat.le_trans (Nat.le_max_left reach further) afford.2

theorem Priced.step {run : Matcher → Progress → Outcome} {matcher : Matcher}
    (inside : ∀ fuel, before.fuel = fuel + 1 →
      r.Priced verdict need reach { before with fuel := fuel }
        (r.runMatcher run matcher { before with fuel := fuel })) :
    r.Priced verdict (need + 1) reach before (r.step run matcher before) := by
  unfold Recognizer.step
  split
  · next empty =>
      refine ⟨fun afford => ?_, fun _ => .inl rfl⟩
      have := afford.1
      omega
  · next fuel spent =>
      have inner := inside fuel spent
      constructor
      · intro afford
        have fits := afford.1
        obtain ⟨same, left⟩ := inner.paid ⟨by simp only; omega, afford.2⟩
        exact ⟨same, by simp only at left; omega⟩
      · intro short
        refine inner.unpaid fun afford => short ⟨?_, afford.2⟩
        have fits : need ≤ fuel := afford.1
        omega

theorem Priced.congr {start : Progress} {result : Outcome}
    (priced : r.Priced verdict need reach before outcome) (fuel : start.fuel = before.fuel)
    (depth : start.depth = before.depth) (same : result.verdict = outcome.verdict)
    (left : result.state.fuel = outcome.state.fuel) :
    r.Priced verdict need reach start result := by
  obtain ⟨paid, unpaid⟩ := priced
  simp only [Affords] at paid unpaid
  constructor <;> simp only [Affords, fuel, depth, same, left]
  · exact paid
  · exact unpaid

/-- Whether every run of a task from a cursor comes to a verdict at a price. A matcher is
never free. -/
def Prices (r : Recognizer) (verdict : Verdict) (need reach cursor : Nat) : Task → Prop
  | .one matcher => 0 < need ∧ ∀ nesting before, r.Ready (.one matcher) cursor nesting before →
      r.Priced verdict need reach before (r.tryWithin nesting matcher before)
  | .all parts => ∀ nesting before, r.Ready (.all parts) cursor nesting before →
      r.Priced verdict need reach before (runParts (r.tryWithin nesting) parts before)
  | .first alternatives => ∀ nesting place before,
      r.Ready (.first alternatives) cursor nesting before → place.cursor = cursor →
      r.Priced verdict need reach before
        (runChoice (r.tryWithin nesting) place alternatives before)
  | .rounds bounds body count => ∀ nesting rounds before,
      r.Ready (.rounds bounds body count) cursor nesting before → before.fuel < rounds →
      count + before.fuel < UInt32.size →
      r.Priced verdict need reach before
        (repeatFrom (r.tryWithin nesting) bounds body rounds count before)

variable {cursor nesting : Nat} {task : Task}

theorem Ready.onward {next budget : Nat} {rest : Task} {state : Progress}
    (ready : r.Ready task cursor nesting before) (place : state.cursor = next)
    (fuel : state.fuel ≤ before.fuel) (fits : state.fuel ≤ budget)
    (observed : state.journal.isSome = before.journal.isSome)
    (parts : task.Within r.table → rest.Within r.table) : r.Ready rest next budget state where
  cursor := place
  nesting := fits
  small := Nat.lt_of_le_of_lt fuel ready.small
  named noted := by
    obtain ⟨closed, within⟩ := ready.named (observed ▸ noted)
    exact ⟨closed, parts within⟩

theorem Ready.part {rest : Task} (ready : r.Ready task cursor nesting before)
    (parts : task.Within r.table → rest.Within r.table) : r.Ready rest cursor nesting before :=
  ready.onward ready.cursor (Nat.le_refl _) ready.nesting rfl parts

theorem Prices.ofRun {matcher : Matcher}
    (inside : ∀ nesting before, r.Ready (.one matcher) cursor nesting before →
      r.Priced verdict need reach before (r.runMatcher (r.tryWithin nesting) matcher before)) :
    r.Prices verdict (need + 1) reach cursor (.one matcher) := by
  refine ⟨Nat.succ_pos need, fun nesting before ready => ?_⟩
  have budget := ready.nesting
  cases nesting with
  | zero =>
      -- without nesting there is no fuel either, and the price is not paid
      refine ⟨fun afford => ?_, fun _ => .inl rfl⟩
      have := afford.1
      omega
  | succ nesting =>
      refine Priced.step fun fuel spent => inside nesting _ ?_
      exact ready.onward ready.cursor (by simp only; omega) (by simp only; omega) rfl id

theorem testToken_decided (id : TokenId) (before : Progress)
    (named : before.journal.isSome = true → ∃ name, r.table.lexicon.name? id = some name) :
    (∀ why, (r.testToken id before).verdict ≠ .stopped why) ∧
      (r.testToken id before).state.fuel = before.fuel := by
  unfold testToken
  split
  · next unnamed =>
      simp only [Bool.and_eq_true] at unnamed
      obtain ⟨name, known⟩ := named unnamed.1
      simp [known] at unnamed
  · dsimp only
    split
    · split <;> exact ⟨fun _ stopped => Verdict.noConfusion stopped, rfl⟩
    · exact ⟨fun _ stopped => Verdict.noConfusion stopped, rfl⟩

theorem Prices.token {id : TokenId} {finding : Finding}
    (found : r.Finds (.one (.token id)) cursor finding) :
    r.Prices finding.verdict 1 0 cursor (.one (.token id)) := by
  refine Prices.ofRun fun nesting before ready => ?_
  obtain ⟨decided, kept⟩ := r.testToken_decided id before fun noted => (ready.named noted).2
  have backed := testToken_grounded (r := r) id before
  rw [← ready.cursor] at found
  refine ⟨fun _ => ⟨?_, kept⟩, fun short => absurd ⟨Nat.zero_le _, Nat.zero_le _⟩ short⟩
  exact backed.verdict_eq found decided

theorem runBody_priced {run : Matcher → Progress → Outcome} (conservative : Conservative run)
    {id : RuleId} {body : Matcher}
    (inside : ∀ trail, r.Priced verdict need reach before
      (run body { before with trail := trail })) :
    r.Priced verdict need reach before (r.runBody run id body before) := by
  obtain ⟨trail, same, left⟩ := runBody_like (r := r) conservative id body before
  exact (inside trail).congr rfl rfl same left

theorem Prices.rule {id : RuleId} {rule : Rule} (declared : r.table.rule? id = some rule)
    (inside : r.Prices verdict need reach cursor (.one rule.matcher)) :
    r.Prices verdict (need + 1) (reach + 1) cursor (.one (.rule id)) := by
  refine Prices.ofRun fun nesting before ready => ?_
  change r.Priced verdict need (reach + 1) before (r.runRule (r.tryWithin nesting) id before)
  have conservative := tryWithin_conservative (r := r) nesting
  have kept := runBody_atomic (r := r) conservative id rule.matcher (before.enter id)
  have inner : r.Priced verdict need reach (before.enter id)
      (r.runBody (r.tryWithin nesting) id rule.matcher (before.enter id)) := by
    refine runBody_priced conservative fun trail => ?_
    refine (inside.2 nesting { before.enter id with trail := trail } ?_).congr rfl rfl rfl rfl
    refine ⟨ready.cursor, ready.nesting, ready.small, fun noted => ?_⟩
    obtain ⟨closed, -⟩ := ready.named (by simpa using noted)
    exact ⟨closed, closed id rule declared⟩
  unfold runRule
  split
  · next full =>
      refine ⟨fun afford => ?_, fun _ => .inr rfl⟩
      have := afford.2
      omega
  · next room =>
      rw [declared]
      dsimp only
      rcases ran : r.runBody (r.tryWithin nesting) id rule.matcher (before.enter id)
        with ⟨found, after⟩
      rw [ran] at kept inner
      -- one rule deeper there is one less to go
      have shift : r.Affords need (reach + 1) before ↔ r.Affords need reach (before.enter id) := by
        simp only [Affords, Progress.enter_fuel, Progress.enter_depth]
        omega
      have outside : r.Priced verdict need (reach + 1) before ⟨found, after⟩ :=
        ⟨fun afford => inner.paid (shift.mp afford),
          fun short => inner.unpaid fun afford => short (shift.mpr afford)⟩
      cases found with
      | matched =>
          simp only [leaveRule_of_depth kept.1]
          exact outside.congr rfl rfl rfl rfl
      | failed =>
          simp only [leaveRule_of_depth kept.1]
          exact outside.congr rfl rfl rfl rfl
      | stopped why => exact outside

theorem Prices.sequence {parts : List Matcher}
    (inside : r.Prices verdict need reach cursor (.all parts)) :
    r.Prices verdict (need + 1) reach cursor (.one (.sequence parts)) :=
  Prices.ofRun fun nesting before ready =>
    (inside nesting before (ready.part id)).undone

theorem Prices.choice {alternatives : List Matcher}
    (inside : r.Prices verdict need reach cursor (.first alternatives)) :
    r.Prices verdict (need + 1) reach cursor (.one (.choice alternatives)) :=
  Prices.ofRun fun nesting before ready =>
    inside nesting before.bookmark before
      (ready.part id) ready.cursor

theorem Prices.repeated {bounds : Bounds} {body : Matcher}
    (inside : r.Prices verdict need reach cursor (.rounds bounds body 0)) :
    r.Prices verdict (need + 1) reach cursor (.one (.repeated bounds body)) :=
  Prices.ofRun fun nesting before ready =>
    (inside nesting (before.fuel + 1) before
      (ready.part id) (Nat.lt_succ_self _)
      (by have := ready.small; omega)).undone

theorem Ready.behind {part : Matcher} {next : Nat} {forest : Forest}
    (ready : r.Ready task cursor nesting before) (rest : Task)
    (ran : r.tryWithin nesting part before = ⟨.matched, after⟩)
    (found : r.Finds (.one part) cursor (.matched next forest)) (less : after.fuel ≤ before.fuel)
    (parts : task.Within r.table → rest.Within r.table) :
    after.cursor = next ∧ after.depth = before.depth ∧ r.Ready rest next nesting after := by
  have kept := tryWithin_conservative (r := r) nesting part before
  have backed := tryWithin_sound (r := r) nesting part before
  rw [ran] at kept backed
  obtain ⟨behind, reached, -⟩ := backed
  rw [ready.cursor] at reached
  obtain ⟨depth, -, -, observed⟩ := kept
  cases reached.unique found
  exact ⟨rfl, depth,
    ready.onward rfl less (Nat.le_trans less ready.nesting) observed parts⟩

theorem Prices.allDone : r.Prices .matched 0 0 cursor (.all []) := fun _ _ _ => .free

theorem Prices.allFail {part : Matcher} {rest : List Matcher}
    (head : r.Prices .failed need reach cursor (.one part)) :
    r.Prices .failed need reach cursor (.all (part :: rest)) := by
  intro nesting before ready
  have first := head.2 nesting before (ready.part And.left)
  rw [runParts]
  rcases ran : r.tryWithin nesting part before with ⟨verdict, after⟩
  rw [ran] at first
  cases verdict with
  | matched => exact absurd (first.eq (by simp)) (by simp)
  | failed | stopped => exact first

theorem Prices.allNext {part : Matcher} {rest : List Matcher} {next : Nat} {forest : Forest}
    (found : r.Finds (.one part) cursor (.matched next forest))
    (head : r.Prices .matched need reach cursor (.one part))
    (tail : r.Prices other more further next (.all rest)) :
    r.Prices other (need + more) (max reach further) cursor (.all (part :: rest)) := by
  intro nesting before ready
  have first := head.2 nesting before (ready.part And.left)
  rw [runParts]
  rcases ran : r.tryWithin nesting part before with ⟨verdict, after⟩
  rw [ran] at first
  cases verdict with
  | failed => exact absurd (first.eq (by simp)) (by simp)
  | stopped why => exact first.stop (by simp)
  | matched =>
      have spent := (first.settled (by simp)).2.2
      obtain ⟨-, depth, onward⟩ :=
        ready.behind (.all rest) ran found (by omega) And.right
      exact first.next (by simp) depth (tail nesting after onward)

theorem Prices.firstNone : r.Prices .failed 0 0 cursor (.first []) := fun _ _ _ _ _ => .free

theorem Prices.firstHit {alternative : Matcher} {rest : List Matcher}
    (head : r.Prices .matched need reach cursor (.one alternative)) :
    r.Prices .matched need reach cursor (.first (alternative :: rest)) := by
  intro nesting place before ready _
  have first := head.2 nesting before (ready.part And.left)
  rw [runChoice]
  rcases ran : r.tryWithin nesting alternative before with ⟨verdict, after⟩
  rw [ran] at first
  cases verdict with
  | failed => exact absurd (first.eq (by simp)) (by simp)
  | matched | stopped => exact first

theorem Prices.firstNext {alternative : Matcher} {rest : List Matcher}
    (head : r.Prices .failed need reach cursor (.one alternative))
    (tail : r.Prices other more further cursor (.first rest)) :
    r.Prices other (need + more) (max reach further) cursor (.first (alternative :: rest)) := by
  intro nesting place before ready here
  have first := head.2 nesting before (ready.part And.left)
  have kept := tryWithin_conservative (r := r) nesting alternative before
  rw [runChoice]
  rcases ran : r.tryWithin nesting alternative before with ⟨verdict, after⟩
  rw [ran] at first kept
  cases verdict with
  | matched => exact absurd (first.eq (by simp)) (by simp)
  | stopped why => exact first.stop (by simp)
  | failed =>
      -- a failed alternative costs fuel, and the next one begins where it began
      have spent := (first.settled (by simp)).2.2
      obtain ⟨depth, -, -, observed⟩ := kept
      have less : after.fuel ≤ before.fuel := by omega
      have back : r.Ready (.first rest) cursor nesting (after.backtrack place) := by
        refine ready.onward ?_ ?_ ?_ ?_ And.right
        · rw [Progress.backtrack_cursor, here]
        · rwa [Progress.backtrack_fuel]
        · rw [Progress.backtrack_fuel]
          exact Nat.le_trans less ready.nesting
        · rw [Progress.backtrack_isSome_journal, observed]
      have second := tail nesting place (after.backtrack place) back here
      exact first.next (by simp) depth (second.congr (by simp) (by simp) rfl rfl)

theorem ended_eq (bounds : Bounds) (count cursor : Nat) (state : Progress) :
    ended bounds count state = ⟨(Finding.ofCount bounds count cursor).verdict, state⟩ := by
  unfold ended Finding.ofCount
  split
  · next few => rw [if_neg (Nat.not_le.mpr few)]; rfl
  · next enough => rw [if_pos (Nat.not_lt.mp enough)]; rfl

theorem Prices.roundsFull {bounds : Bounds} {body : Matcher} {count : Nat}
    (full : bounds.allowsMore count = false) :
    r.Prices (Finding.ofCount bounds count cursor).verdict 0 0 cursor
      (.rounds bounds body count) := by
  intro nesting rounds before ready enough _
  cases rounds with
  | zero => exact absurd enough (Nat.not_lt_zero _)
  | succ rounds =>
      rw [repeatFrom, if_neg (by simp [full]), ended_eq bounds count cursor]
      exact .free

theorem Prices.roundsFail {bounds : Bounds} {body : Matcher} {count : Nat}
    (allowed : bounds.allowsMore count = true)
    (head : r.Prices .failed need reach cursor (.one body)) :
    r.Prices (Finding.ofCount bounds count cursor).verdict need reach cursor
      (.rounds bounds body count) := by
  intro nesting rounds before ready enough _
  have first := head.2 nesting before (ready.part id)
  cases rounds with
  | zero => exact absurd enough (Nat.not_lt_zero _)
  | succ rounds =>
      rw [repeatFrom, if_pos allowed]
      rcases ran : r.tryWithin nesting body before with ⟨verdict, after⟩
      rw [ran] at first
      cases verdict with
      | matched => exact absurd (first.eq (by simp)) (by simp)
      | stopped why => exact ⟨fun afford => absurd (first.paid afford).1 (by simp), first.unpaid⟩
      | failed =>
          obtain ⟨afford, -, spent⟩ := first.settled (by simp)
          dsimp only
          rw [ended_eq bounds count cursor]
          exact ⟨fun _ => ⟨rfl, spent⟩, fun short => absurd afford short⟩

theorem Prices.roundsEmpty {bounds : Bounds} {body : Matcher} {count : Nat} {forest : Forest}
    (allowed : bounds.allowsMore count = true)
    (found : r.Finds (.one body) cursor (.matched cursor forest))
    (head : r.Prices .matched need reach cursor (.one body)) :
    r.Prices .matched need reach cursor (.rounds bounds body count) := by
  intro nesting rounds before ready enough counted
  have first := head.2 nesting before (ready.part id)
  cases rounds with
  | zero => exact absurd enough (Nat.not_lt_zero _)
  | succ rounds =>
      rw [repeatFrom, if_pos allowed]
      rcases ran : r.tryWithin nesting body before with ⟨verdict, after⟩
      rw [ran] at first
      cases verdict with
      | failed => exact absurd (first.eq (by simp)) (by simp)
      | stopped why => exact first
      | matched =>
          obtain ⟨afford, -, spent⟩ := first.settled (by simp)
          obtain ⟨still, -, -⟩ := ready.behind
            (.rounds bounds body count) ran found (by omega) id
          have cost := head.1
          have fits := afford.1
          have room : ¬ UInt32.size ≤ count + 1 := by omega
          have full : ¬ max (count + 1) bounds.least.toNat < bounds.least.toNat := by omega
          dsimp only
          rw [if_neg room, if_pos (still.trans ready.cursor.symm), ended, if_neg full]
          exact first

theorem Prices.roundsNext {bounds : Bounds} {body : Matcher} {count next : Nat}
    {forest : Forest} (allowed : bounds.allowsMore count = true)
    (found : r.Finds (.one body) cursor (.matched next forest)) (moved : next ≠ cursor)
    (head : r.Prices .matched need reach cursor (.one body))
    (tail : r.Prices other more further next (.rounds bounds body (count + 1))) :
    r.Prices other (need + more) (max reach further) cursor (.rounds bounds body count) := by
  intro nesting rounds before ready enough counted
  have first := head.2 nesting before (ready.part id)
  cases rounds with
  | zero => exact absurd enough (Nat.not_lt_zero _)
  | succ rounds =>
      rw [repeatFrom, if_pos allowed]
      rcases ran : r.tryWithin nesting body before with ⟨verdict, after⟩
      rw [ran] at first
      cases verdict with
      | failed => exact absurd (first.eq (by simp)) (by simp)
      | stopped why => exact first.stop (by simp)
      | matched =>
          obtain ⟨afford, -, spent⟩ := first.settled (by simp)
          obtain ⟨place, depth, onward⟩ := ready.behind
            (.rounds bounds body (count + 1)) ran found (by omega) id
          -- a round costs fuel, so neither the counter nor the rounds run out before it
          have cost := head.1
          have fits := afford.1
          have room : ¬ UInt32.size ≤ count + 1 := by omega
          have gone : ¬ after.cursor = before.cursor := by rwa [place, ready.cursor]
          dsimp only
          rw [if_neg room, if_neg gone]
          exact first.next (by simp) depth
            (tail nesting rounds after onward (by omega) (by omega))

end Recognizer

open Recognizer in
theorem Finds.priced {table : RuleTable} {watch : Watch} {lexemes : Array Lexeme} {task : Task}
    {cursor : Nat} {finding : Finding} (found : Finds table watch lexemes task cursor finding) :
    ∃ need reach, ∀ limits, (⟨table, watch, limits, lexemes⟩ : Recognizer).Prices
      finding.verdict need reach cursor task := by
  induction found with
  | token here same => exact ⟨1, 0, fun _ => Prices.token (.token here same)⟩
  | tokenOther other => exact ⟨1, 0, fun _ => Prices.token (.tokenOther other)⟩
  | rule declared _ ih =>
      obtain ⟨need, reach, priced⟩ := ih
      rw [Finding.verdict_under]
      exact ⟨_, _, fun limits => Prices.rule declared (priced limits)⟩
  | sequence _ ih =>
      obtain ⟨need, reach, priced⟩ := ih
      exact ⟨_, _, fun limits => Prices.sequence (priced limits)⟩
  | allDone => exact ⟨0, 0, fun _ => Prices.allDone⟩
  | allFail _ ih =>
      obtain ⟨need, reach, priced⟩ := ih
      exact ⟨_, _, fun limits => Prices.allFail (priced limits)⟩
  | allNext head _ ihHead ihTail =>
      obtain ⟨need, reach, first⟩ := ihHead
      obtain ⟨more, further, second⟩ := ihTail
      rw [Finding.verdict_after]
      exact ⟨_, _, fun limits => Prices.allNext head (first limits) (second limits)⟩
  | choice _ ih =>
      obtain ⟨need, reach, priced⟩ := ih
      exact ⟨_, _, fun limits => Prices.choice (priced limits)⟩
  | firstNone => exact ⟨0, 0, fun _ => Prices.firstNone⟩
  | firstHit _ ih =>
      obtain ⟨need, reach, priced⟩ := ih
      exact ⟨_, _, fun limits => Prices.firstHit (priced limits)⟩
  | firstNext _ _ ihHead ihTail =>
      obtain ⟨need, reach, first⟩ := ihHead
      obtain ⟨more, further, second⟩ := ihTail
      exact ⟨_, _, fun limits => Prices.firstNext (first limits) (second limits)⟩
  | repeated _ ih =>
      obtain ⟨need, reach, priced⟩ := ih
      exact ⟨_, _, fun limits => Prices.repeated (priced limits)⟩
  | roundsFull full => exact ⟨0, 0, fun _ => Prices.roundsFull full⟩
  | roundsFail allowed _ ih =>
      obtain ⟨need, reach, priced⟩ := ih
      exact ⟨_, _, fun limits => Prices.roundsFail allowed (priced limits)⟩
  | roundsEmpty allowed head ih =>
      obtain ⟨need, reach, priced⟩ := ih
      exact ⟨_, _, fun limits => Prices.roundsEmpty allowed head (priced limits)⟩
  | roundsNext allowed head moved _ ihHead ihTail =>
      obtain ⟨need, reach, first⟩ := ihHead
      obtain ⟨more, further, second⟩ := ihTail
      rw [Finding.verdict_after]
      exact ⟨_, _, fun limits =>
        Prices.roundsNext allowed head moved (first limits) (second limits)⟩

/-- Whether an outcome tells of a finding: its verdict, the cursor it ends at, and its events
behind those that were there. -/
def Outcome.Reports (outcome : Outcome) (before : Progress) (finding : Finding) : Prop :=
  outcome.verdict = finding.verdict ∧ outcome.state.cursor = finding.cursorFrom before.cursor ∧
    outcome.state.trail = before.trail.record finding.events

namespace Recognizer

theorem attempt_reports (r : Recognizer) (matcher : Matcher) (before : Progress)
    (decided : ∀ why, (r.attempt matcher before).verdict ≠ .stopped why) :
    ∃ finding, r.Finds (.one matcher) before.cursor finding ∧
      (r.attempt matcher before).Reports before finding := by
  have backed := tryWithin_sound (r := r) before.fuel matcher before
  have kept := tryWithin_conservative (r := r) before.fuel matcher before
  unfold attempt at decided ⊢
  rcases ran : r.tryWithin before.fuel matcher before with ⟨verdict, after⟩
  rw [ran] at backed kept decided
  cases verdict with
  | matched =>
      obtain ⟨forest, found, recorded⟩ := backed
      exact ⟨_, found, rfl, rfl, recorded⟩
  | failed => exact ⟨.failed, backed, rfl, kept.2.1, by simp [Finding.events, kept.2.2.1]⟩
  | stopped why => exact absurd rfl (decided why)

/-- Running a matcher is finding what it matches. What an attempt reports is there to find,
there is nothing else to find at that cursor, and with fuel and depth enough every attempt
reports it. A counter of 32 bits holds the fuel; where steps are noted the numbers that
turn up must have names, as they have in a table made from names and bodies. -/
theorem attempt_iff_finds (r : Recognizer) (matcher : Matcher) :
    (∀ before, (∀ why, (r.attempt matcher before).verdict ≠ .stopped why) →
      ∃ finding, r.Finds (.one matcher) before.cursor finding ∧
        (r.attempt matcher before).Reports before finding) ∧
    ∀ cursor finding, r.Finds (.one matcher) cursor finding →
      (∀ other, r.Finds (.one matcher) cursor other → other = finding) ∧
      ∃ need reach, ∀ limits before, before.cursor = cursor →
        (before.journal.isSome = true → r.table.Closed ∧ matcher.Within r.table) →
        need ≤ before.fuel → before.fuel < UInt32.size →
        before.depth + reach ≤ limits.depth.toNat →
        ({ r with limits := limits }.attempt matcher before).Reports before finding := by
  refine ⟨attempt_reports r matcher, fun cursor finding found => ?_⟩
  refine ⟨fun other reached => reached.unique found, ?_⟩
  obtain ⟨need, reach, priced⟩ := found.priced
  refine ⟨need, reach, fun limits before here named fuel small room => ?_⟩
  have ready : { r with limits := limits }.Ready (.one matcher) cursor before.fuel before :=
    ⟨here, Nat.le_refl _, small, named⟩
  have paid := ((priced limits).2 before.fuel before ready).paid ⟨fuel, by simp only; omega⟩
  have decided : ∀ why, ({ r with limits := limits }.attempt matcher before).verdict ≠
      .stopped why := by
    intro why
    rw [attempt, paid.1]
    cases finding <;> simp [Finding.verdict]
  obtain ⟨reported, reached, reports⟩ := attempt_reports _ matcher before decided
  rw [here] at reached
  rwa [reached.unique found] at reports

/-- Two lists with another lexeme between them, or that lexeme alone. The steps are noted. -/
theorem attempt_iff_finds_lists :
    let r : Recognizer := ⟨lists, .all lists, ⟨20, 9⟩, lexemesOf [⟨1⟩, ⟨0⟩, ⟨1⟩]⟩
    let either : Matcher := .choice [.token ⟨0⟩, .rule ⟨0⟩]
    RuleTable.ofRules lists.lexicon [("pair", "list A list"), ("list", "B+")] = .ok lists ∧
      either.Within lists ∧
      ∃ forest, forest.events = [⟨.rule ⟨0⟩, 0, some 3⟩, ⟨.rule ⟨1⟩, 0, some 1⟩, .token ⟨1⟩ 0,
          .token ⟨0⟩ 1, ⟨.rule ⟨1⟩, 2, some 3⟩, .token ⟨1⟩ 2] ∧
        (∀ finding, r.Finds (.one either) 0 finding ↔ finding = .matched 3 forest) ∧
        ∃ need reach, ∀ limits, need ≤ limits.fuel.toNat → reach ≤ limits.depth.toNat →
          ({ r with limits := limits }.attempt either (.start limits (some #[]))).Reports
            (.start limits (some #[])) (.matched 3 forest) := by
  intro r either
  have made : RuleTable.ofRules lists.lexicon [("pair", "list A list"), ("list", "B+")] =
      .ok lists := by cbv
  have within : either.Within lists := ⟨⟨_, rfl⟩, ⟨_, rfl⟩, trivial⟩
  have matched : (r.attempt either (.start ⟨20, 9⟩ (some #[]))).verdict = .matched := by
    decide +kernel
  obtain ⟨found, complete⟩ := attempt_iff_finds r either
  obtain ⟨finding, here, verdict, cursor, trail⟩ := found (.start ⟨20, 9⟩ (some #[])) (by
    simp [matched])
  refine ⟨made, within, ?_⟩
  cases finding with
  | failed => cases matched.symm.trans verdict
  | matched stop forest =>
      obtain rfl : 3 = stop := .trans (by decide +kernel) cursor
      obtain ⟨unique, need, reach, reports⟩ := complete 0 _ here
      have listed : (r.attempt either (.start ⟨20, 9⟩ (some #[]))).state.trail.events.toList =
          [⟨.rule ⟨0⟩, 0, some 3⟩, ⟨.rule ⟨1⟩, 0, some 1⟩, .token ⟨1⟩ 0, .token ⟨0⟩ 1,
            ⟨.rule ⟨1⟩, 2, some 3⟩, .token ⟨1⟩ 2] := by decide +kernel
      rw [trail, Trail.toList_record] at listed
      refine ⟨forest, listed, ?_, need, reach, ?_⟩
      · exact fun finding => ⟨unique finding, fun same => same ▸ here⟩
      · intro limits fuel depth
        refine reports limits _ rfl ?_ fuel limits.fuel.toNat_lt ?_
        · exact fun _ => ⟨RuleTable.ofRules_closed made, within⟩
        · simpa [Progress.start] using depth

end Recognizer

end TextGrammar
