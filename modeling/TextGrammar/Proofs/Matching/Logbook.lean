import TextGrammar.Proofs.Matching.Restriction

/-!
What can be told from the steps that are noted of a match. Who reads them from the beginning can
keep the cursor and the rules that were entered and not left, and is never surprised: each step
begins where the one before it has ended, a rule is left only as the innermost one, and going back
is noted wherever the cursor has moved. What is on the trail agrees with this. The events without an
end are those of the rules that are being matched, in the order in which these were entered, also
where the match is given up.
-/

namespace TextGrammar

open Notation (Bounds)

/-- What a reader of noted steps knows: the cursor, and the rules that were entered and not left,
the innermost first, each with the cursor at which it was entered. -/
structure Reading where
  cursor : Nat
  active : List (RuleId × Nat)

namespace Reading

def next (reading : Reading) : Step → Reading
  | .enter rule cursor => { reading with active := (rule, cursor) :: reading.active }
  | .leave _ _ _ => { reading with active := reading.active.tail }
  | .test _ _ _ true => { reading with cursor := reading.cursor + 1 }
  | .test _ _ _ false => reading
  | .backtrack _ stop => { reading with cursor := stop }

def read (reading : Reading) (steps : List Step) : Reading := steps.foldl next reading

/-- Whether a step agrees with what the reader knows. It is taken at the reader's cursor. A rule
that is left is the innermost one, and where it has failed, it is left where it was entered. Going
back leads to a place further in front. -/
def Expects (reading : Reading) : Step → Prop
  | .enter _ cursor | .test _ cursor _ _ => cursor = reading.cursor
  | .leave rule cursor matched =>
      cursor = reading.cursor ∧
        ∃ start, reading.active.head? = some (rule, start) ∧ (matched = false → start = cursor)
  | .backtrack start stop => start = reading.cursor ∧ stop < start

def Follows (reading : Reading) (steps : List Step) : Prop :=
  ∀ front step back, steps = front ++ step :: back → (reading.read front).Expects step

variable {reading : Reading} {steps : List Step} {step : Step}

theorem follows_nil (reading : Reading) : reading.Follows [] := by
  intro front step back split
  cases front <;> cases split

theorem Follows.snoc (follows : reading.Follows steps)
    (expected : (reading.read steps).Expects step) : reading.Follows (steps ++ [step]) := by
  intro front other back split
  -- the list is split at the last step or in front of it
  rcases List.eq_nil_or_concat back with rfl | ⟨rest, last, rfl⟩
  · obtain ⟨rfl, same⟩ := List.append_inj' split rfl
    cases same
    exact expected
  · have listed : steps ++ [step] = (front ++ other :: rest) ++ [last] := by simpa using split
    obtain ⟨rfl, -⟩ := List.append_inj' listed rfl
    exact follows front other rest rfl

theorem read_snoc (reading : Reading) (steps : List Step) (step : Step) :
    reading.read (steps ++ [step]) = (reading.read steps).next step := by
  simp [read]

end Reading

def Event.isOpen (event : Event) : Bool := event.ruleId?.isSome && event.stop.isNone

/-- Whether the steps that were noted since a state tell where a match is, and in which rules. As
many rules were entered since as it is deeper. -/
structure Noted (base state : Progress) (active : List (RuleId × Nat)) : Prop where
  told : ∃ steps, state.journal = some steps ∧ (⟨base.cursor, []⟩ : Reading).Follows steps.toList ∧
    Reading.read ⟨base.cursor, []⟩ steps.toList = ⟨state.cursor, active⟩
  depth : state.depth = base.depth + active.length

namespace Noted

variable {base state after : Progress} {active others : List (RuleId × Nat)}

theorem congr (noted : Noted base state active) (journal : after.journal = state.journal)
    (cursor : after.cursor = state.cursor) (depth : after.depth = state.depth) :
    Noted base after active := by
  obtain ⟨steps, observed, follows, told⟩ := noted.told
  constructor
  · exact ⟨steps, journal.trans observed, follows, cursor ▸ told⟩
  · exact depth.trans noted.depth

theorem note (noted : Noted base state active) (step : Step)
    (expected : (⟨state.cursor, active⟩ : Reading).Expects step)
    (journal : after.journal = (state.note step).journal)
    (next : Reading.next ⟨state.cursor, active⟩ step = ⟨after.cursor, others⟩)
    (depth : after.depth = base.depth + others.length) : Noted base after others := by
  obtain ⟨steps, observed, follows, told⟩ := noted.told
  refine ⟨⟨steps.push step, ?_, ?_, ?_⟩, depth⟩
  · rw [journal, Progress.note, observed]
    rfl
  · rw [Array.toList_push]
    exact follows.snoc (told ▸ expected)
  · rw [Array.toList_push, Reading.read_snoc, told, next]

theorem enter (noted : Noted base state active) (id : RuleId) :
    Noted base (state.enter id) ((id, state.cursor) :: active) := by
  apply noted.note (.enter id state.cursor)
  · exact rfl
  · rfl
  · rfl
  · exact congrArg (· + 1) noted.depth

theorem leave {id : RuleId} {start depth : Nat} {matched : Bool}
    (noted : Noted base state ((id, start) :: active))
    (failed : matched = false → start = state.cursor) (deep : state.depth = depth + 1) :
    Noted base ({ state with depth := depth }.note (.leave id state.cursor matched)) active := by
  apply noted.note (.leave id state.cursor matched)
  · exact ⟨rfl, start, rfl, failed⟩
  · rfl
  · rfl
  · have known := noted.depth
    rw [deep, List.length_cons] at known
    exact Nat.succ.inj known

theorem backtrack (noted : Noted base after active) (forward : state.cursor ≤ after.cursor) :
    Noted base (after.backtrack state.bookmark) active := by
  unfold Progress.backtrack
  by_cases still : after.cursor = state.cursor
  · rw [if_pos (show after.cursor = state.bookmark.cursor from still)]
    exact noted.congr rfl still.symm rfl
  · rw [if_neg (show after.cursor ≠ state.bookmark.cursor from still)]
    apply noted.note (.backtrack after.cursor state.cursor)
    · exact ⟨rfl, Nat.lt_of_le_of_ne forward (Ne.symm still)⟩
    · rfl
    · rfl
    · exact noted.depth

end Noted

namespace Recognizer

def openEvents (r : Recognizer) (active : List (RuleId × Nat)) : List Event :=
  (active.reverse.filter fun entry => r.watch.watchesRule entry.1).map fun entry =>
    .rule entry.1 entry.2

/-- Whether the events that were recorded since a state without an end are those of the rules that
are being matched. Those with an end are in front of the cursor. -/
def Recorded (r : Recognizer) (base state : Progress) (active : List (RuleId × Nat)) : Prop :=
  ∃ events, state.trail = base.trail.record events ∧
    events.filter Event.isOpen = r.openEvents active ∧
    ∀ event ∈ events, ∀ last, event.stop = some last → event.start ≤ last ∧ last ≤ state.cursor

/-- Whether steps and events since a state both tell of a state in which some rules of the table are
being matched. -/
structure Consistent (r : Recognizer) (base state : Progress) (active : List (RuleId × Nat)) :
    Prop where
  noted : Noted base state active
  recorded : r.Recorded base state active
  known : ∀ entry ∈ active, (r.table.rule? entry.1).isSome = true

/-- Whether an outcome is consistent. Rules beyond those that were being matched before are being
matched only where the match is given up. -/
def Stands (r : Recognizer) (base : Progress) (active : List (RuleId × Nat)) (outcome : Outcome) :
    Prop :=
  ∃ opened, r.Consistent base outcome.state (opened ++ active) ∧
    ((∀ why, outcome.verdict ≠ .stopped why) → opened = [])

def Accords (r : Recognizer) (run : Matcher → Progress → Outcome) : Prop :=
  ∀ matcher, matcher.Within r.table → ∀ base state active, r.Consistent base state active →
    r.Stands base active (run matcher state)

variable {r : Recognizer} {run : Matcher → Progress → Outcome} {base state after : Progress}
  {active : List (RuleId × Nat)} {id : RuleId} {verdict : Verdict} {outcome : Outcome}

theorem openEvents_cons (id : RuleId) (start : Nat) (active : List (RuleId × Nat)) :
    r.openEvents ((id, start) :: active) =
      r.openEvents active ++ if r.watch.watchesRule id then [.rule id start] else [] := by
  by_cases watched : r.watch.watchesRule id = true <;>
    simp [openEvents, List.filter_append, watched]

theorem Consistent.stands (consistent : r.Consistent base after active) :
    r.Stands base active ⟨verdict, after⟩ := ⟨[], consistent, fun _ => rfl⟩

theorem Stands.settled (stands : r.Stands base active ⟨verdict, after⟩)
    (decided : ∀ why, verdict ≠ .stopped why) : r.Consistent base after active := by
  obtain ⟨opened, consistent, none⟩ := stands
  cases none decided
  exact consistent

theorem Recorded.backtrack (begun : r.Recorded base state active) (kept : state.Precedes after) :
    r.Recorded base (after.backtrack state.bookmark) active := by
  obtain ⟨cursor, trail, -⟩ := kept.backtrack
  unfold Recorded
  rw [trail, cursor]
  exact begun

theorem Consistent.backtrack (begun : r.Consistent base state active)
    (ended : r.Consistent base after active) (kept : state.Precedes after) :
    r.Consistent base (after.backtrack state.bookmark) active := by
  constructor
  · exact ended.noted.backtrack kept.1
  · exact begun.recorded.backtrack kept
  · exact begun.known

theorem Stands.undone (begun : r.Consistent base state active) (orderly : outcome.Orderly state)
    (stands : r.Stands base active outcome) :
    r.Stands base active (outcome.undone state.bookmark) := by
  obtain ⟨verdict, after⟩ := outcome
  cases verdict with
  | failed => exact (begun.backtrack (stands.settled (by simp)) orderly.2).stands
  | matched | stopped => exact stands

theorem Recorded.token (recorded : r.Recorded base state active) (id : TokenId)
    (trail : after.trail = state.trail.record (r.watch.tokenForest id state.cursor).events)
    (forward : state.cursor ≤ after.cursor) : r.Recorded base after active := by
  obtain ⟨events, extended, opens, ended⟩ := recorded
  have endless : ∀ event ∈ (r.watch.tokenForest id state.cursor).events,
      event.isOpen = false ∧ event.stop = none := by
    unfold Watch.tokenForest
    split
    · exact List.forall_mem_singleton.mpr ⟨rfl, rfl⟩
    · exact List.forall_mem_nil _
  have none : (r.watch.tokenForest id state.cursor).events.filter Event.isOpen = [] := by
    apply List.filter_eq_nil_iff.mpr
    intro event member
    simp [(endless event member).1]
  refine ⟨events ++ (r.watch.tokenForest id state.cursor).events, ?_, ?_, ?_⟩
  · rw [trail, extended, Trail.record_record]
  · rw [List.filter_append, opens, none, List.append_nil]
  · intro event member last stop
    rcases List.mem_append.mp member with earlier | later
    · obtain ⟨ordered, inside⟩ := ended event earlier last stop
      exact ⟨ordered, Nat.le_trans inside forward⟩
    · rw [(endless event later).2] at stop
      cases stop

theorem testToken_stands {id : TokenId} {name : String}
    (named : r.table.lexicon.name? id = some name) (here : r.Consistent base state active) :
    r.Stands base active (r.testToken id state) := by
  rw [testToken_of_named named]
  dsimp only
  by_cases same : (r.peek? state).any (·.id = id) = true
  · rw [if_pos same]
    apply Consistent.stands
    constructor
    · exact here.noted.note (.test id state.cursor (r.peek? state) true) rfl (by rw [same])
        rfl here.noted.depth
    · exact here.recorded.token id rfl (Nat.le_succ _)
    · exact here.known
  · rw [if_neg same]
    apply Consistent.stands
    constructor
    · have other : (r.peek? state).any (·.id = id) = false := by simpa using same
      exact here.noted.note (.test id state.cursor (r.peek? state) false) rfl (by rw [other])
        rfl here.noted.depth
    · exact here.recorded
    · exact here.known

theorem runParts_stands (accords : r.Accords run) (parts : List Matcher)
    (within : Matcher.AllWithin r.table parts) (here : r.Consistent base state active) :
    r.Stands base active (runParts run parts state) := by
  induction parts generalizing state with
  | nil => exact here.stands
  | cons part rest ih =>
      have head := accords part within.1 base state active here
      rw [runParts]
      rcases ran : run part state with ⟨verdict, after⟩
      rw [ran] at head
      cases verdict with
      | matched => exact ih within.2 (head.settled (by simp))
      | failed | stopped => exact head

theorem runChoice_stands (conservative : Conservative run) (accords : r.Accords run)
    (alternatives : List Matcher) (within : Matcher.AllWithin r.table alternatives)
    (start : Progress) (cursor : state.cursor = start.cursor) (trail : state.trail = start.trail)
    (observed : state.journal.isSome = start.journal.isSome)
    (begun : r.Consistent base start active) (here : r.Consistent base state active) :
    r.Stands base active (runChoice run start.bookmark alternatives state) := by
  induction alternatives generalizing state with
  | nil => exact here.stands
  | cons alternative rest ih =>
      have head := accords alternative within.1 base state active here
      have first := conservative alternative state
      rw [runChoice]
      rcases ran : run alternative state with ⟨verdict, after⟩
      rw [ran] at head first
      cases verdict with
      | failed =>
          -- the next alternative is tried from where the first one was
          obtain ⟨backCursor, backTrail, backObserved⟩ := first.retry cursor trail observed
          apply ih within.2 backCursor backTrail backObserved
          exact begun.backtrack (head.settled (by simp)) (first.precedes cursor trail observed)
      | matched | stopped => exact head

theorem ended_stands (bounds : Bounds) (count : Nat) (here : r.Consistent base state active) :
    r.Stands base active (ended bounds count state) := by
  unfold ended
  split
  · exact here.stands
  · exact here.stands

theorem repeatFrom_stands (accords : r.Accords run) (bounds : Bounds) (body : Matcher)
    (within : body.Within r.table) (rounds count : Nat) (here : r.Consistent base state active) :
    r.Stands base active (repeatFrom run bounds body rounds count state) := by
  induction rounds generalizing count state with
  | zero => exact here.stands
  | succ rounds ih =>
      have head := accords body within base state active here
      rw [repeatFrom]
      by_cases more : bounds.allowsMore count = true
      · rw [if_pos more]
        rcases ran : run body state with ⟨verdict, after⟩
        rw [ran] at head
        cases verdict with
        | stopped why => exact head
        | failed => exact ended_stands bounds count (head.settled (by simp))
        | matched =>
            have behind := head.settled (by simp)
            dsimp only
            split
            · exact behind.stands
            · split
              · exact ended_stands bounds _ behind
              · exact ih (count + 1) behind
      · rw [if_neg more]
        exact ended_stands bounds count here

theorem Recorded.opened (here : r.Recorded base state active) (id : RuleId) :
    r.Recorded base (r.opened id state) ((id, state.cursor) :: active) := by
  obtain ⟨events, extended, opens, ended⟩ := here
  unfold Recognizer.opened
  by_cases watched : r.watch.watchesRule id = true
  · rw [if_pos watched]
    refine ⟨events ++ [.rule id state.cursor], ?_, ?_, ?_⟩
    · exact (congrArg (Trail.record · _) extended).trans (Trail.record_record _ _ _)
    · rw [List.filter_append, opens, openEvents_cons, if_pos watched]
      rfl
    · intro event member last stop
      rcases List.mem_append.mp member with earlier | opened
      · exact ended event earlier last stop
      · cases List.mem_singleton.mp opened
        cases stop
  · rw [if_neg watched]
    refine ⟨events, extended, ?_, ended⟩
    rw [openEvents_cons, if_neg watched, List.append_nil, opens]

theorem Consistent.opened (here : r.Consistent base state active) {rule : Rule}
    (declared : r.table.rule? id = some rule) :
    r.Consistent base (r.opened id (state.enter id)) ((id, state.cursor) :: active) := by
  constructor
  · unfold Recognizer.opened
    split
    · exact (here.noted.enter id).congr rfl rfl rfl
    · exact here.noted.enter id
  · have entered : r.Recorded base (state.enter id) active := here.recorded
    exact entered.opened id
  · intro entry member
    rcases List.mem_cons.mp member with rfl | outside
    · exact Option.isSome_iff_exists.mpr ⟨rule, declared⟩
    · exact here.known entry outside

theorem Recorded.silent {start : Nat} (inner : r.Recorded base after ((id, start) :: active))
    (unwatched : ¬ r.watch.watchesRule id = true) : r.Recorded base after active := by
  obtain ⟨events, extended, opens, ended⟩ := inner
  rw [openEvents_cons, if_neg unwatched, List.append_nil] at opens
  exact ⟨events, extended, opens, ended⟩

theorem Recorded.close (here : r.Recorded base state active)
    (inner : r.Recorded base after ((id, state.cursor) :: active)) {events : List Event}
    (watched : r.watch.watchesRule id = true) (forward : state.cursor ≤ after.cursor)
    (recorded : after.trail = state.trail.record (.rule id state.cursor :: events)) :
    r.Recorded base { after with
      trail := state.trail.record (⟨.rule id, state.cursor, some after.cursor⟩ :: events) }
      active := by
  obtain ⟨front, begun, opens, -⟩ := here
  obtain ⟨all, extended, opensToo, ended⟩ := inner
  rw [recorded, begun, Trail.record_record] at extended
  cases Trail.record_inj extended
  -- the open event is the last of the open ones, so there is none behind it
  have none : events.filter Event.isOpen = [] := by
    rw [List.filter_append, opens, openEvents_cons, if_pos watched,
      List.append_cancel_left_eq] at opensToo
    exact (List.cons.inj opensToo).2
  refine ⟨front ++ ⟨.rule id, state.cursor, some after.cursor⟩ :: events, ?_, ?_, ?_⟩
  · exact (congrArg (Trail.record · _) begun).trans (Trail.record_record _ _ _)
  · rw [List.filter_append, opens, List.filter_cons_of_neg (by simp [Event.isOpen]), none,
      List.append_nil]
  · intro event member last stop
    rcases List.mem_append.mp member with earlier | later
    · exact ended event (List.mem_append_left _ earlier) last stop
    · rcases List.mem_cons.mp later with rfl | inside
      · cases stop
        exact ⟨forward, Nat.le_refl _⟩
      · exact ended event (List.mem_append_right _ (List.mem_cons_of_mem _ inside)) last stop

theorem Stands.around {entry : RuleId × Nat} {why : Stop}
    (inner : r.Stands base (entry :: active) ⟨.stopped why, after⟩) :
    r.Stands base active ⟨.stopped why, after⟩ := by
  obtain ⟨opened, consistent, -⟩ := inner
  refine ⟨opened ++ [entry], ?_, fun decided => absurd rfl (decided why)⟩
  simpa using consistent

/-- Whether the body of a rule has come to an end. The rule is still being matched, but its event
is closed or taken back, unless the match was given up. -/
def Ends (r : Recognizer) (base : Progress) (active : List (RuleId × Nat)) (entry : RuleId × Nat) :
    Outcome → Prop
  | ⟨.stopped why, after⟩ => r.Stands base active ⟨.stopped why, after⟩
  | ⟨_, after⟩ => Noted base after (entry :: active) ∧ r.Recorded base after active

theorem runWatched_ends (conservative : Conservative run) (body : Matcher)
    (watched : r.watch.watchesRule id = true) (here : r.Recorded base state active)
    (inner : r.Stands base ((id, state.cursor) :: active)
      (run body { state with trail := state.trail.record [.rule id state.cursor] })) :
    r.Ends base active (id, state.cursor) (runWatched run id body state) := by
  have kept := conservative body
    { state with trail := state.trail.record [.rule id state.cursor] }
  have became := runWatched_cases conservative id body state
  rcases ran : run body { state with trail := state.trail.record [.rule id state.cursor] }
    with ⟨verdict, after⟩
  rw [ran] at inner kept became
  cases verdict with
  | matched =>
      obtain ⟨events, recorded, closed⟩ := became
      have behind := inner.settled (by simp)
      rw [closed]
      constructor
      · exact behind.noted.congr rfl rfl rfl
      · exact here.close behind.recorded watched kept.2.1 recorded
  | failed =>
      obtain ⟨-, cursor, trail, observed⟩ := kept
      have precedes : state.Precedes after := ⟨Nat.le_of_eq cursor.symm, ⟨_, trail⟩, observed⟩
      rw [became]
      constructor
      · exact (inner.settled (by simp)).noted.backtrack precedes.1
      · exact here.backtrack precedes
  | stopped why =>
      rw [became]
      exact inner.around

theorem runBody_ends (conservative : Conservative run) (body : Matcher)
    (here : r.Recorded base state active)
    (inner : r.Stands base ((id, state.cursor) :: active) (run body (r.opened id state))) :
    r.Ends base active (id, state.cursor) (r.runBody run id body state) := by
  unfold runBody
  unfold opened at inner
  by_cases watched : r.watch.watchesRule id = true
  · rw [if_pos watched] at inner ⊢
    exact runWatched_ends conservative body watched here inner
  · rw [if_neg watched] at inner ⊢
    rcases ran : run body state with ⟨verdict, after⟩
    rw [ran] at inner
    cases verdict with
    | matched | failed =>
        have behind := inner.settled (by simp)
        exact ⟨behind.noted, behind.recorded.silent watched⟩
    | stopped why => exact inner.around

theorem runRule_stands (conservative : Conservative run) (accords : r.Accords run)
    (closed : r.table.Closed) {rule : Rule} (declared : r.table.rule? id = some rule)
    (here : r.Consistent base state active) : r.Stands base active (r.runRule run id state) := by
  unfold runRule
  by_cases full : r.limits.depth.toNat ≤ state.depth
  · rw [if_pos full]
    exact here.stands
  · rw [if_neg full, declared]
    dsimp only
    have kept := runBody_atomic (r := r) conservative id rule.matcher (state.enter id)
    have entered : r.Recorded base (state.enter id) active := here.recorded
    have inside := runBody_ends conservative rule.matcher entered
      (accords rule.matcher (closed id rule declared) base _ _ (here.opened declared))
    rcases ran : r.runBody run id rule.matcher (state.enter id) with ⟨verdict, after⟩
    rw [ran] at kept inside
    -- with a verdict the rule is left, and where the match is given up it is not
    cases verdict with
    | matched =>
        simp only [leaveRule_of_depth kept.1]
        apply Consistent.stands
        exact ⟨inside.1.leave (by simp) kept.1, inside.2, here.known⟩
    | failed =>
        simp only [leaveRule_of_depth kept.1]
        apply Consistent.stands
        exact ⟨inside.1.leave (fun _ => kept.2.1.symm) kept.1, inside.2, here.known⟩
    | stopped why => exact inside

theorem runMatcher_accords (conservative : Conservative run) (accords : r.Accords run)
    (closed : r.table.Closed) : r.Accords (r.runMatcher run) := by
  intro matcher within base state active here
  cases matcher with
  | token id =>
      obtain ⟨name, named⟩ := within
      exact testToken_stands named here
  | rule id =>
      obtain ⟨rule, declared⟩ := within
      exact runRule_stands conservative accords closed declared here
  | sequence parts =>
      exact (runParts_stands accords parts within here).undone here
        (runParts_orderly conservative parts state)
  | choice alternatives =>
      exact runChoice_stands conservative accords alternatives within state rfl rfl rfl here here
  | repeated bounds body =>
      exact (repeatFrom_stands accords bounds body within (state.fuel + 1) 0 here).undone here
        (repeatFrom_orderly conservative bounds body (state.fuel + 1) 0 state)

theorem tryWithin_accords (closed : r.table.Closed) (nesting : Nat) :
    r.Accords (r.tryWithin nesting) := by
  induction nesting with
  | zero => exact fun _ _ _ _ _ here => here.stands
  | succ nesting ih =>
      intro matcher within base state active here
      rw [tryWithin, step]
      cases state.fuel with
      | zero => exact here.stands
      | succ fuel =>
          apply runMatcher_accords (tryWithin_conservative nesting) ih closed matcher within
          exact ⟨here.noted.congr rfl rfl rfl, here.recorded, here.known⟩

theorem consistent_start (r : Recognizer) (base : Progress)
    (observed : base.journal = some #[]) : r.Consistent base base [] := by
  constructor
  · exact ⟨⟨#[], observed, Reading.follows_nil _, rfl⟩, rfl⟩
  · exact ⟨[], by simp, rfl, List.forall_mem_nil _⟩
  · exact List.forall_mem_nil _

end Recognizer

end TextGrammar
