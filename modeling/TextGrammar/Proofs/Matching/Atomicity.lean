import TextGrammar.Matching.Recognizer

/-!
What an attempt leaves behind, whatever the matcher and whatever the state it starts from.
An attempt that fails leaves cursor, trail and depth as it found them. No attempt, also
none that is given up, moves the cursor back or touches what was recorded before it.
-/

namespace TextGrammar

/-- Nothing is lost on the way from one state to another: the cursor is not further back,
the trail is the earlier one with events behind it, and steps are noted or not as before. -/
def Progress.Precedes (before after : Progress) : Prop :=
  before.cursor ≤ after.cursor ∧ (∃ events, after.trail = before.trail.record events) ∧
    after.journal.isSome = before.journal.isSome

theorem Progress.Precedes.refl (state : Progress) : state.Precedes state :=
  ⟨Nat.le_refl _, ⟨[], by simp⟩, rfl⟩

theorem Progress.Precedes.trans {first second third : Progress}
    (here : first.Precedes second) (there : second.Precedes third) : first.Precedes third := by
  obtain ⟨forward, ⟨events, recorded⟩, observed⟩ := here
  obtain ⟨further, ⟨others, added⟩, still⟩ := there
  exact ⟨Nat.le_trans forward further, ⟨events ++ others, by
    rw [added, recorded, Trail.record_record]⟩, still.trans observed⟩

theorem Progress.Precedes.backtrack {before after : Progress} (kept : before.Precedes after) :
    (after.backtrack before.bookmark).cursor = before.cursor ∧
      (after.backtrack before.bookmark).trail = before.trail ∧
      (after.backtrack before.bookmark).journal.isSome = before.journal.isSome := by
  obtain ⟨-, ⟨events, recorded⟩, observed⟩ := kept
  refine ⟨by simp [bookmark], ?_, by simpa using observed⟩
  rw [Progress.backtrack_trail, recorded]
  exact Trail.truncate_record before.trail events

namespace Outcome

/-- An outcome from a state that keeps what was there. A failure leaves no trace, and only
a match that is given up leaves a different depth. -/
def Atomic (before : Progress) : Outcome → Prop
  | ⟨.matched, after⟩ => after.depth = before.depth ∧ before.Precedes after
  | ⟨.failed, after⟩ =>
      after.depth = before.depth ∧ after.cursor = before.cursor ∧ after.trail = before.trail ∧
        after.journal.isSome = before.journal.isSome
  | ⟨.stopped _, after⟩ => before.Precedes after

def Orderly (before : Progress) : Outcome → Prop
  | ⟨.matched, after⟩ | ⟨.failed, after⟩ =>
      after.depth = before.depth ∧ before.Precedes after
  | ⟨.stopped _, after⟩ => before.Precedes after

theorem Atomic.orderly {before : Progress} {outcome : Outcome} (atomic : outcome.Atomic before) :
    outcome.Orderly before := by
  obtain ⟨verdict, after⟩ := outcome
  cases verdict with
  | matched => exact atomic
  | failed =>
      obtain ⟨depth, cursor, trail, observed⟩ := atomic
      exact ⟨depth, Nat.le_of_eq cursor.symm, ⟨[], by rw [trail, Trail.record_nil]⟩, observed⟩
  | stopped why => exact atomic

theorem Atomic.precedes {start before after : Progress} (atomic : Atomic before ⟨.failed, after⟩)
    (cursor : before.cursor = start.cursor) (trail : before.trail = start.trail)
    (observed : before.journal.isSome = start.journal.isSome) : start.Precedes after := by
  obtain ⟨-, sameCursor, sameTrail, still⟩ := atomic
  exact ⟨by omega, ⟨[], by rw [sameTrail, trail, Trail.record_nil]⟩, still.trans observed⟩

theorem Atomic.retry {start before after : Progress} (atomic : Atomic before ⟨.failed, after⟩)
    (cursor : before.cursor = start.cursor) (trail : before.trail = start.trail)
    (observed : before.journal.isSome = start.journal.isSome) :
    (after.backtrack start.bookmark).cursor = start.cursor ∧
      (after.backtrack start.bookmark).trail = start.trail ∧
      (after.backtrack start.bookmark).journal.isSome = start.journal.isSome :=
  (atomic.precedes cursor trail observed).backtrack

theorem Orderly.trans {first second : Progress} {outcome : Outcome}
    (depth : second.depth = first.depth) (kept : first.Precedes second)
    (orderly : outcome.Orderly second) : outcome.Orderly first := by
  obtain ⟨verdict, after⟩ := outcome
  cases verdict with
  | matched | failed => exact ⟨orderly.1.trans depth, kept.trans orderly.2⟩
  | stopped why => exact kept.trans orderly

theorem Orderly.undone {before : Progress} {outcome : Outcome}
    (orderly : outcome.Orderly before) : (outcome.undone before.bookmark).Atomic before := by
  obtain ⟨verdict, after⟩ := outcome
  cases verdict with
  | failed => exact ⟨by simpa using orderly.1, orderly.2.backtrack⟩
  | matched | stopped => exact orderly

end Outcome

namespace Recognizer

def Conservative (run : Matcher → Progress → Outcome) : Prop :=
  ∀ matcher before, (run matcher before).Atomic before

variable {r : Recognizer} {run : Matcher → Progress → Outcome}

theorem testToken_atomic (id : TokenId) (before : Progress) :
    (r.testToken id before).Atomic before := by
  unfold testToken
  split
  · exact .refl before
  · dsimp only
    split
    · split
      · exact ⟨rfl, Nat.le_succ _, ⟨[.token id before.cursor], Trail.push_eq_record _ _⟩,
          by simp⟩
      · exact ⟨rfl, Nat.le_succ _, ⟨[], by simp⟩, by simp⟩
    · exact ⟨rfl, rfl, rfl, by simp⟩

/-- What becomes of a watched rule, read off from what becomes of its body behind the open
event. The event that is closed is the one that was opened here. -/
theorem runWatched_cases (conservative : Conservative run) (id : RuleId) (body : Matcher)
    (before : Progress) :
    match run body { before with trail := before.trail.record [.rule id before.cursor] } with
    | ⟨.matched, after⟩ => ∃ events,
        after.trail = before.trail.record (.rule id before.cursor :: events) ∧
        runWatched run id body before = ⟨.matched, { after with
          trail := before.trail.record (⟨.rule id, before.cursor, some after.cursor⟩ :: events) }⟩
    | ⟨.failed, after⟩ =>
        runWatched run id body before = ⟨.failed, after.backtrack before.bookmark⟩
    | ⟨.stopped why, after⟩ => runWatched run id body before = ⟨.stopped why, after⟩ := by
  have inner := conservative body
    { before with trail := before.trail.record [.rule id before.cursor] }
  simp only [runWatched, Trail.push_eq_record]
  rcases ran : run body { before with trail := before.trail.record [.rule id before.cursor] }
    with ⟨verdict, after⟩
  rw [ran] at inner
  cases verdict with
  | matched =>
      obtain ⟨-, -, ⟨events, recorded⟩, -⟩ := inner
      rw [Trail.record_record] at recorded
      refine ⟨events, recorded, ?_⟩
      -- the body has kept what was in front of it, so the slot still holds the open event
      have closed := Trail.close_record before.trail (.rule id before.cursor) events
        after.cursor rfl
      simp only [recorded, Progress.bookmark, List.singleton_append] at closed ⊢
      rw [closed]
      rfl
  | failed | stopped => rfl

theorem runWatched_atomic (conservative : Conservative run) (id : RuleId) (body : Matcher)
    (before : Progress) : (runWatched run id body before).Atomic before := by
  have inner := conservative body
    { before with trail := before.trail.record [.rule id before.cursor] }
  have became := runWatched_cases conservative id body before
  rcases ran : run body { before with trail := before.trail.record [.rule id before.cursor] }
    with ⟨verdict, after⟩
  rw [ran] at inner became
  cases verdict with
  | matched =>
      obtain ⟨depth, forward, -, observed⟩ := inner
      obtain ⟨events, -, closed⟩ := became
      rw [closed]
      exact ⟨depth, forward, ⟨_, rfl⟩, observed⟩
  | failed =>
      obtain ⟨depth, cursor, trail, observed⟩ := inner
      have kept : before.Precedes after :=
        ⟨Nat.le_of_eq cursor.symm, ⟨_, trail⟩, observed⟩
      rw [became]
      exact ⟨by simpa using depth, kept.backtrack⟩
  | stopped why =>
      obtain ⟨forward, ⟨events, recorded⟩, observed⟩ := inner
      rw [became]
      exact ⟨forward, ⟨_, by rw [recorded, Trail.record_record]⟩, observed⟩

theorem runBody_atomic (conservative : Conservative run) (id : RuleId) (body : Matcher)
    (before : Progress) : (r.runBody run id body before).Atomic before := by
  unfold runBody
  split
  · exact runWatched_atomic conservative id body before
  · exact conservative body before

def opened (r : Recognizer) (id : RuleId) (state : Progress) : Progress :=
  if r.watch.watchesRule id then { state with trail := state.trail.record [.rule id state.cursor] }
  else state

/-- Watched or not, a rule's body comes to what it comes to behind the open event or without one,
but for the event around it and what is taken back. -/
theorem runBody_opened (conservative : Conservative run) (id : RuleId) (body : Matcher)
    (before : Progress) :
    (r.runBody run id body before).verdict = (run body (r.opened id before)).verdict ∧
      (r.runBody run id body before).state.fuel = (run body (r.opened id before)).state.fuel ∧
      (r.runBody run id body before).state.depth = (run body (r.opened id before)).state.depth := by
  unfold runBody opened
  split
  · have became := runWatched_cases conservative id body before
    rcases ran : run body { before with trail := before.trail.record [.rule id before.cursor] }
      with ⟨verdict, after⟩
    rw [ran] at became
    cases verdict with
    | matched =>
        obtain ⟨events, -, closed⟩ := became
        rw [closed]
        exact ⟨rfl, rfl, rfl⟩
    | failed =>
        rw [became]
        exact ⟨rfl, after.backtrack_fuel before.bookmark, after.backtrack_depth before.bookmark⟩
    | stopped why =>
        rw [became]
        exact ⟨rfl, rfl, rfl⟩
  · exact ⟨rfl, rfl, rfl⟩

theorem runBody_like (conservative : Conservative run) (id : RuleId) (body : Matcher)
    (before : Progress) : ∃ trail,
      (r.runBody run id body before).verdict = (run body { before with trail := trail }).verdict ∧
        (r.runBody run id body before).state.fuel =
          (run body { before with trail := trail }).state.fuel := by
  obtain ⟨verdict, fuel, -⟩ := runBody_opened (r := r) conservative id body before
  have behind : ∃ trail, r.opened id before = { before with trail := trail } := by
    unfold opened
    split
    · exact ⟨_, rfl⟩
    · exact ⟨before.trail, rfl⟩
  obtain ⟨trail, same⟩ := behind
  rw [same] at verdict fuel
  exact ⟨trail, verdict, fuel⟩

theorem leaveRule_of_depth {id : RuleId} {matched : Bool} {depth : Nat} {state : Progress}
    (entered : state.depth = depth + 1) :
    leaveRule id matched state = ⟨if matched then .matched else .failed,
      { state with depth := depth }.note (.leave id state.cursor matched)⟩ := by
  simp [leaveRule, entered]

theorem runRule_atomic (conservative : Conservative run) (id : RuleId) (before : Progress) :
    (r.runRule run id before).Atomic before := by
  unfold runRule
  split
  · exact .refl before
  · split
    · exact .refl before
    · next rule _ =>
        have inner := runBody_atomic (r := r) conservative id rule.matcher (before.enter id)
        rcases ran : r.runBody run id rule.matcher (before.enter id) with ⟨verdict, after⟩
        rw [ran] at inner
        cases verdict with
        | matched =>
            obtain ⟨depth, forward, recorded, observed⟩ := inner
            simp only [leaveRule_of_depth depth]
            exact ⟨rfl, forward, recorded, by simpa using observed⟩
        | failed =>
            obtain ⟨depth, cursor, trail, observed⟩ := inner
            simp only [leaveRule_of_depth depth]
            exact ⟨rfl, cursor, trail, by simpa using observed⟩
        | stopped why =>
            obtain ⟨forward, recorded, observed⟩ := inner
            exact ⟨forward, recorded, by simpa using observed⟩

theorem runParts_orderly (conservative : Conservative run) (parts : List Matcher)
    (before : Progress) : (runParts run parts before).Orderly before := by
  induction parts generalizing before with
  | nil => exact ⟨rfl, .refl before⟩
  | cons part rest ih =>
      have first := conservative part before
      rw [runParts]
      rcases ran : run part before with ⟨verdict, after⟩
      rw [ran] at first
      cases verdict with
      | matched => exact (ih after).trans first.1 first.2
      | failed | stopped => exact first.orderly

theorem runSequence_atomic (conservative : Conservative run) (parts : List Matcher)
    (before : Progress) : (runSequence run parts before).Atomic before :=
  (runParts_orderly conservative parts before).undone

theorem runChoice_atomic (conservative : Conservative run) (alternatives : List Matcher)
    (start before : Progress) (depth : before.depth = start.depth)
    (cursor : before.cursor = start.cursor) (trail : before.trail = start.trail)
    (observed : before.journal.isSome = start.journal.isSome) :
    (runChoice run start.bookmark alternatives before).Atomic start := by
  induction alternatives generalizing before with
  | nil => exact ⟨depth, cursor, trail, observed⟩
  | cons alternative rest ih =>
      have first := conservative alternative before
      rw [runChoice]
      rcases ran : run alternative before with ⟨verdict, after⟩
      rw [ran] at first
      cases verdict with
      | failed =>
          obtain ⟨backCursor, backTrail, backObserved⟩ := first.retry cursor trail observed
          exact ih _ (by simp [first.1, depth]) backCursor backTrail backObserved
      | matched =>
          simpa only [Outcome.Atomic, Progress.Precedes, depth, cursor, trail, observed]
            using first
      | stopped why =>
          simpa only [Outcome.Atomic, Progress.Precedes, cursor, trail, observed] using first

theorem ended_orderly (bounds : Notation.Bounds) (count : Nat) {before after : Progress}
    (depth : after.depth = before.depth) (kept : before.Precedes after) :
    (ended bounds count after).Orderly before := by
  unfold ended
  split <;> exact ⟨depth, kept⟩

theorem repeatFrom_orderly (conservative : Conservative run) (bounds : Notation.Bounds)
    (body : Matcher) (rounds count : Nat) (before : Progress) :
    (repeatFrom run bounds body rounds count before).Orderly before := by
  induction rounds generalizing count before with
  | zero => exact .refl before
  | succ rounds ih =>
      have first := (conservative body before).orderly
      rw [repeatFrom]
      split
      · rcases ran : run body before with ⟨verdict, after⟩
        rw [ran] at first
        cases verdict with
        | stopped why => exact first
        | failed => exact ended_orderly bounds count first.1 first.2
        | matched =>
            dsimp only
            split
            · exact first.2
            · split
              · exact ended_orderly bounds _ first.1 first.2
              · exact (ih (count + 1) after).trans first.1 first.2
      · exact ended_orderly bounds count rfl (.refl before)

theorem runRepeated_atomic (conservative : Conservative run) (bounds : Notation.Bounds)
    (body : Matcher) (before : Progress) :
    (runRepeated run bounds body before).Atomic before :=
  (repeatFrom_orderly conservative bounds body (before.fuel + 1) 0 before).undone

theorem runMatcher_conservative (conservative : Conservative run) :
    Conservative (r.runMatcher run) := by
  intro matcher before
  cases matcher with
  | token id => exact testToken_atomic id before
  | rule id => exact runRule_atomic conservative id before
  | sequence parts => exact runSequence_atomic conservative parts before
  | choice alternatives =>
      exact runChoice_atomic conservative alternatives before before rfl rfl rfl rfl
  | repeated bounds body => exact runRepeated_atomic conservative bounds body before

theorem step_conservative (conservative : Conservative run) : Conservative (r.step run) := by
  intro matcher before
  unfold step
  split
  · exact .refl before
  · next fuel _ => exact runMatcher_conservative conservative matcher { before with fuel := fuel }

theorem tryWithin_conservative (nesting : Nat) : Conservative (r.tryWithin nesting) := by
  induction nesting with
  | zero => exact fun _ before => .refl before
  | succ nesting ih => exact step_conservative ih

/-- Every attempt is atomic: a failure leaves cursor, trail and depth as they were, a match
moves the cursor on and records behind what was there, and a match that is given up has
not touched what was there either. -/
theorem attempt_atomic (r : Recognizer) (matcher : Matcher) (before : Progress) :
    match r.attempt matcher before with
    | ⟨.failed, after⟩ =>
        after.cursor = before.cursor ∧ after.trail = before.trail ∧ after.depth = before.depth
    | ⟨.matched, after⟩ =>
        after.depth = before.depth ∧ before.cursor ≤ after.cursor ∧
          ∃ events, after.trail = before.trail.record events
    | ⟨.stopped _, after⟩ =>
        (∃ events, after.trail = before.trail.record events) ∧
          before.cursor ≤ after.cursor := by
  have atomic := tryWithin_conservative (r := r) before.fuel matcher before
  rw [attempt]
  rcases ran : r.tryWithin before.fuel matcher before with ⟨verdict, after⟩
  rw [ran] at atomic
  cases verdict with
  | failed =>
      obtain ⟨depth, cursor, trail, -⟩ := atomic
      exact ⟨cursor, trail, depth⟩
  | matched =>
      obtain ⟨depth, forward, recorded, -⟩ := atomic
      exact ⟨depth, forward, recorded⟩
  | stopped why =>
      obtain ⟨forward, recorded, -⟩ := atomic
      exact ⟨recorded, forward⟩

end Recognizer

end TextGrammar
