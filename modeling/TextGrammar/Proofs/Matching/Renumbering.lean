import TextGrammar.Proofs.Matching.Lockstep
import TextGrammar.Proofs.Rules.Reordering

/-!
Matches under other numbers of rules. A match hangs on what rules there are and not on the numbers
that they have: with the same rules under other numbers it takes the same steps, and where a number
of a rule is recorded or noted it is the other one.
-/

namespace TextGrammar

open Notation (Bounds)

section Renumber

variable (number : RuleId → RuleId)

def Subject.renumbered : Subject → Subject
  | .rule id => .rule (number id)
  | .token id => .token id

def Event.renumbered (event : Event) : Event :=
  { event with subject := event.subject.renumbered number }

def Trail.renumbered (trail : Trail) : Trail := ⟨trail.events.map (·.renumbered number)⟩

def Step.renumbered : Step → Step
  | .enter rule cursor => .enter (number rule) cursor
  | .leave rule cursor matched => .leave (number rule) cursor matched
  | .test expected cursor found matched => .test expected cursor found matched
  | .backtrack start stop => .backtrack start stop

def Progress.renumbered (state : Progress) : Progress :=
  { state with
    trail := state.trail.renumbered number
    journal := state.journal.map (·.map (Step.renumbered number)) }

def Outcome.renumbered (outcome : Outcome) : Outcome :=
  ⟨outcome.verdict, outcome.state.renumbered number⟩

end Renumber

variable {number : RuleId → RuleId}

namespace Event

variable (event : Event)

@[simp] theorem subject_renumbered :
    (event.renumbered number).subject = event.subject.renumbered number := rfl

@[simp] theorem start_renumbered : (event.renumbered number).start = event.start := rfl

@[simp] theorem stop_renumbered : (event.renumbered number).stop = event.stop := rfl

end Event

namespace Trail

@[simp] theorem size_renumbered (trail : Trail) : (trail.renumbered number).size = trail.size := by
  simp [renumbered, size]

theorem renumbered_push (trail : Trail) (event : Event) :
    (trail.push event).renumbered number =
      (trail.renumbered number).push (event.renumbered number) := by
  simp [renumbered, push]

theorem renumbered_truncate (trail : Trail) (size : Nat) :
    (trail.truncate size).renumbered number = (trail.renumbered number).truncate size := by
  simp [renumbered, truncate]

theorem renumbered_close (trail : Trail) (slot stop : Nat) :
    (trail.renumbered number).close slot stop =
      (trail.close slot stop).map (·.renumbered number) := by
  have listed : (trail.renumbered number).events[slot]? =
      (trail.events[slot]?).map (·.renumbered number) := by
    simp [renumbered]
  rw [close, close, listed, size_renumbered]
  cases trail.events[slot]? with
  | none => rfl
  | some event =>
      obtain ⟨subject, start, stopped⟩ := event
      cases stopped with
      | none => simp [Except.map, renumbered, Event.renumbered]
      | some earlier => rfl

end Trail

namespace Progress

theorem renumbered_note (state : Progress) (step : Step) :
    (state.note step).renumbered number =
      (state.renumbered number).note (step.renumbered number) := by
  simp only [renumbered, note, Option.map_map]
  congr 2
  funext steps
  exact Array.map_push

theorem renumbered_bookmark (state : Progress) :
    (state.renumbered number).bookmark = state.bookmark := by
  rw [bookmark, bookmark, renumbered, Trail.size_renumbered]

theorem renumbered_restore (state : Progress) (place : Bookmark) :
    (state.restore place).renumbered number = (state.renumbered number).restore place := by
  simp only [renumbered, restore, Trail.renumbered_truncate]

theorem renumbered_backtrack (state : Progress) (place : Bookmark) :
    (state.backtrack place).renumbered number = (state.renumbered number).backtrack place :=
  change_backtrack (renumbered number) (fun _ => rfl) (fun state _ _ => state.renumbered_note _)
    renumbered_restore state place

end Progress

namespace Recognizer

def Renumbers (number : RuleId → RuleId) (one other : Progress) : Prop :=
  other = one.renumbered number

theorem lockstep_renumbers : Lockstep (Renumbers number) where
  fuel := by
    rintro left _ rfl
    rfl
  spend := by
    rintro left _ fuel rfl
    rfl
  still := by
    rintro left _ further _ rfl rfl
    exact Iff.rfl
  back := by
    rintro left _ further _ rfl rfl - -
    rw [Progress.renumbered_bookmark]
    exact (further.renumbered_backtrack left.bookmark).symm

theorem alike_renumbers_iff {left right : Outcome} :
    left.Alike (Renumbers number) (fun _ => False) right ↔ right = left.renumbered number :=
  Outcome.alike_map_iff (·.renumbered number)

/-- Whether the rules of one recognizer are those of another under other numbers, and the two are
otherwise alike. -/
structure Renumbered (number : RuleId → RuleId) (r s : Recognizer) : Prop where
  table : r.table.Renumbered number s.table
  limits : s.limits = r.limits
  lexemes : s.lexemes = r.lexemes
  rules : ∀ id, s.watch.watchesRule (number id) = r.watch.watchesRule id
  tokens : ∀ id, s.watch.watchesToken id = r.watch.watchesToken id

section Operators

variable {run : Matcher → Progress → Outcome}

theorem runParts_map (change : Matcher → Matcher) (parts : List Matcher) (state : Progress) :
    runParts run (parts.map change) state =
      runParts (fun matcher => run (change matcher)) parts state := by
  induction parts generalizing state with
  | nil => rfl
  | cons part rest ih =>
      rw [List.map_cons, runParts, runParts]
      rcases run (change part) state with ⟨verdict, after⟩
      cases verdict with
      | matched => exact ih after
      | failed | stopped => rfl

theorem runChoice_map (change : Matcher → Matcher) (place : Bookmark)
    (alternatives : List Matcher) (state : Progress) :
    runChoice run place (alternatives.map change) state =
      runChoice (fun matcher => run (change matcher)) place alternatives state := by
  induction alternatives generalizing state with
  | nil => rfl
  | cons alternative rest ih =>
      rw [List.map_cons, runChoice, runChoice]
      rcases run (change alternative) state with ⟨verdict, after⟩
      cases verdict with
      | failed => exact ih (after.backtrack place)
      | matched | stopped => rfl

theorem repeatFrom_map (change : Matcher → Matcher) (bounds : Bounds) (body : Matcher)
    (rounds count : Nat) (state : Progress) :
    repeatFrom run bounds (change body) rounds count state =
      repeatFrom (fun matcher => run (change matcher)) bounds body rounds count state := by
  induction rounds generalizing count state with
  | zero => rfl
  | succ rounds ih => simp only [repeatFrom, ih]

end Operators

variable {table : RuleTable} {r s : Recognizer} {left right : Matcher → Progress → Outcome}
  {id : RuleId}

theorem testToken_renumbered (renumbered : Renumbered number r s) (id : TokenId)
    (state : Progress) :
    s.testToken id (state.renumbered number) = (r.testToken id state).renumbered number := by
  have seen : s.peek? (state.renumbered number) = r.peek? state := by
    rw [peek?, peek?, renumbered.lexemes]
    rfl
  have observed : (state.renumbered number).journal.isSome = state.journal.isSome :=
    Option.isSome_map
  have noted : ∀ matched,
      (state.renumbered number).note (.test id state.cursor (r.peek? state) matched) =
        (state.note (.test id state.cursor (r.peek? state) matched)).renumbered number :=
    fun matched => (state.renumbered_note (.test id state.cursor (r.peek? state) matched)).symm
  have pushed : (state.trail.push (.token id state.cursor)).renumbered number =
      (state.trail.renumbered number).push (.token id state.cursor) :=
    state.trail.renumbered_push (.token id state.cursor)
  unfold testToken
  simp only [seen, observed, renumbered.table.lexicon, renumbered.tokens]
  split
  · rfl
  · change (if (r.peek? state).any (·.id = id) = true then
      if r.watch.watchesToken id = true then _ else _ else _) = _
    rw [show (state.renumbered number).cursor = state.cursor from rfl, noted]
    split
    · split
      · refine congrArg (Outcome.mk .matched) ?_
        simp only [Progress.renumbered, Progress.note, pushed]
      · rfl
    · rfl

theorem runWatched_renumbered {body : Matcher}
    (mirrored : ∀ state, right (body.renumbered number) (state.renumbered number) =
      (left body state).renumbered number) (state : Progress) :
    runWatched right (number id) (body.renumbered number) (state.renumbered number) =
      (runWatched left id body state).renumbered number := by
  have opened : { state.renumbered number with
      trail := (state.renumbered number).trail.push
        (.rule (number id) (state.renumbered number).cursor) } =
        Progress.renumbered number
          { state with trail := state.trail.push (.rule id state.cursor) } := by
    simp only [Progress.renumbered, Trail.renumbered_push]
    rfl
  unfold runWatched
  rw [opened, mirrored, Progress.renumbered_bookmark]
  rcases left body { state with trail := state.trail.push (.rule id state.cursor) }
    with ⟨verdict, after⟩
  cases verdict with
  | matched =>
      dsimp only [Outcome.renumbered]
      rw [show (after.renumbered number).trail = after.trail.renumbered number from rfl,
        Trail.renumbered_close]
      rw [show (after.renumbered number).cursor = after.cursor from rfl]
      cases after.trail.close state.bookmark.watermark after.cursor with
      | ok trail => rfl
      | error fault => rfl
  | failed =>
      exact congrArg (Outcome.mk .failed) (after.renumbered_backtrack state.bookmark).symm
  | stopped why => rfl

theorem leaveRule_renumbered (matched : Bool) (state : Progress) :
    leaveRule (number id) matched (state.renumbered number) =
      (leaveRule id matched state).renumbered number := by
  obtain ⟨cursor, trail, fuel, depth, journal⟩ := state
  cases depth with
  | zero => rfl
  | succ depth =>
      refine congrArg (Outcome.mk _) ?_
      exact (Progress.renumbered_note ⟨cursor, trail, fuel, depth, journal⟩
        (.leave id cursor matched)).symm

def Translates (number : RuleId → RuleId) (table : RuleTable)
    (left right : Matcher → Progress → Outcome) : Prop :=
  ∀ matcher, matcher.Within table → ∀ state,
    right (matcher.renumbered number) (state.renumbered number) =
      (left matcher state).renumbered number

theorem translates_iff : Translates number table left right ↔
    RunsAlike table (Renumbers number) (fun _ => False) left
      fun matcher => right (matcher.renumbered number) := by
  constructor
  · rintro translates matcher within one _ rfl
    exact alike_renumbers_iff.mpr (translates matcher within one)
  · intro alike matcher within state
    exact alike_renumbers_iff.mp (alike matcher within state _ rfl)

theorem runRule_renumbered (renumbered : Renumbered number r s) (closed : r.table.Closed)
    (translates : Translates number r.table left right) {rule : Rule}
    (declared : r.table.rule? id = some rule) (state : Progress) :
    s.runRule right (number id) (state.renumbered number) =
      (r.runRule left id state).renumbered number := by
  have mirrored := translates rule.matcher (closed id rule declared)
  have found : s.table.rule? (number id) = some (rule.renumbered number) := by
    rw [renumbered.table.rule?, declared]
    rfl
  have entered : (state.renumbered number).enter (number id) =
      (state.enter id).renumbered number :=
    (Progress.renumbered_note { state with depth := state.depth + 1 }
      (.enter id state.cursor)).symm
  have body : s.runBody right (number id) (rule.renumbered number).matcher
      ((state.enter id).renumbered number) =
        (r.runBody left id rule.matcher (state.enter id)).renumbered number := by
    unfold runBody
    rw [renumbered.rules]
    split
    · exact runWatched_renumbered mirrored (state.enter id)
    · exact mirrored (state.enter id)
  unfold runRule
  rw [renumbered.limits, show (state.renumbered number).depth = state.depth from rfl]
  split
  · rfl
  · rw [declared, found]
    dsimp only
    rw [entered, body]
    rcases r.runBody left id rule.matcher (state.enter id) with ⟨verdict, after⟩
    cases verdict with
    | matched => exact leaveRule_renumbered true after
    | failed => exact leaveRule_renumbered false after
    | stopped why => rfl

theorem runMatcher_translates (renumbered : Renumbered number r s) (closed : r.table.Closed)
    (keeps : Conservative left) (holds : Conservative right)
    (translates : Translates number r.table left right) :
    Translates number r.table (r.runMatcher left) (s.runMatcher right) := by
  have alike := translates_iff.mp translates
  have still : Conservative fun matcher => right (matcher.renumbered number) :=
    fun matcher => holds (matcher.renumbered number)
  intro matcher within state
  cases matcher with
  | token id => exact testToken_renumbered renumbered id state
  | rule id =>
      obtain ⟨rule, declared⟩ := within
      exact runRule_renumbered renumbered closed translates declared state
  | sequence parts =>
      apply alike_renumbers_iff.mp
      simp only [runMatcher, Matcher.renumbered, Matcher.allRenumbered_eq_map, runSequence,
        runParts_map]
      exact runSequence_alike lockstep_renumbers keeps still alike parts within rfl
  | choice alternatives =>
      apply alike_renumbers_iff.mp
      simp only [runMatcher, Matcher.renumbered, Matcher.allRenumbered_eq_map, runChoice_map]
      exact runChoice_alike lockstep_renumbers keeps still alike alternatives within state _
        rfl rfl rfl rfl rfl rfl rfl rfl
  | repeated bounds body =>
      apply alike_renumbers_iff.mp
      simp only [runMatcher, Matcher.renumbered, runRepeated, repeatFrom_map]
      exact runRepeated_alike lockstep_renumbers keeps still alike bounds body within rfl

theorem step_translates (renumbered : Renumbered number r s) (closed : r.table.Closed)
    (keeps : Conservative left) (holds : Conservative right)
    (translates : Translates number r.table left right) :
    Translates number r.table (r.step left) (s.step right) := by
  intro matcher within state
  unfold step
  rw [show (state.renumbered number).fuel = state.fuel from rfl]
  cases state.fuel with
  | zero => rfl
  | succ fuel =>
      exact runMatcher_translates renumbered closed keeps holds translates matcher within
        { state with fuel := fuel }

theorem tryWithin_translates (renumbered : Renumbered number r s) (closed : r.table.Closed)
    (nesting : Nat) : Translates number r.table (r.tryWithin nesting) (s.tryWithin nesting) := by
  induction nesting with
  | zero => exact fun _ _ _ => rfl
  | succ nesting ih =>
      exact step_translates renumbered closed (tryWithin_conservative nesting)
        (tryWithin_conservative nesting) ih

/-- A run of a rule under its other number is the run under the first one, but for the numbers. -/
theorem run_renumbered (renumbered : Renumbered number r s) (closed : r.table.Closed) {rule : Rule}
    (declared : r.table.rule? id = some rule) (journal : Option (Array Step)) :
    s.run (number id) (journal.map (·.map (Step.renumbered number))) =
      (r.run id journal).renumbered number := by
  have begun : Progress.start s.limits (journal.map (·.map (Step.renumbered number))) =
      (Progress.start r.limits journal).renumbered number := by
    simp [Progress.start, Progress.renumbered, Trail.renumbered, Trail.empty, renumbered.limits]
  unfold run
  rw [begun]
  exact runRule_renumbered renumbered closed (tryWithin_translates renumbered closed _) declared _

end Recognizer

end TextGrammar
