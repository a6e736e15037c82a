import TextGrammar.Proofs.Matching.Trial

/-!
The counters of a match. Fuel, depth and the number of repetitions have 32 bits each. The fuel that
is left and the trials that were paid for make up the fuel at the start, the depth stays between
that at the start and the limit, and since each repetition is paid for, fewer are counted than there
is fuel. This is so of every attempt, whatever was done with the state before.
-/

namespace TextGrammar

open Notation (Bounds)

namespace Recognizer

/-- Whether the counters of a state are such as a match can come to from another one: there is no
more fuel, and rules are nested as deeply or more deeply, but not so that a limit is passed. -/
structure Regular (r : Recognizer) (before after : Progress) : Prop where
  fuel : after.fuel ≤ before.fuel
  shallow : before.depth ≤ after.depth
  deep : after.depth ≤ max before.depth r.limits.depth.toNat

variable {r : Recognizer} {run : Matcher → Progress → Outcome}
  {first second third before after : Progress} {outcome : Outcome}

theorem Regular.refl (state : Progress) : r.Regular state state :=
  ⟨Nat.le_refl _, Nat.le_refl _, Nat.le_max_left _ _⟩

theorem Regular.trans (here : r.Regular first second) (there : r.Regular second third) :
    r.Regular first third := by
  constructor
  · exact Nat.le_trans there.fuel here.fuel
  · exact Nat.le_trans here.shallow there.shallow
  · have bound := here.deep
    have limit := there.deep
    omega

theorem Regular.congr (regular : r.Regular first second) (fuel : third.fuel = second.fuel)
    (depth : third.depth = second.depth) : r.Regular first third :=
  ⟨fuel ▸ regular.fuel, depth ▸ regular.shallow, depth ▸ regular.deep⟩

theorem Regular.spend {fuel : Nat} (paid : before.fuel = fuel + 1) :
    r.Regular before { before with fuel := fuel } := by
  refine ⟨?_, Nat.le_refl _, Nat.le_max_left _ _⟩
  exact Nat.le_trans (Nat.le_succ fuel) (Nat.le_of_eq paid.symm)

structure Counted (r : Recognizer) (before : Progress) (outcome : Outcome) : Prop where
  regular : r.Regular before outcome.state
  overflow : outcome.verdict ≠ .stopped (.fault .countOverflow)
  underflow : outcome.verdict ≠ .stopped (.fault .countUnderflow)

theorem Regular.counted {verdict : Verdict} (regular : r.Regular before after)
    (faultless : ∀ fault, verdict ≠ .stopped (.fault fault)) : r.Counted before ⟨verdict, after⟩ :=
  ⟨regular, faultless _, faultless _⟩

theorem Counted.onward (regular : r.Regular first second) (counted : r.Counted second outcome) :
    r.Counted first outcome :=
  ⟨regular.trans counted.regular, counted.overflow, counted.underflow⟩

theorem Counted.undone {place : Bookmark} (counted : r.Counted before outcome) :
    r.Counted before (outcome.undone place) := by
  obtain ⟨verdict, after⟩ := outcome
  cases verdict with
  | failed =>
      apply Regular.counted _ (by simp)
      exact counted.regular.congr (after.backtrack_fuel place) (after.backtrack_depth place)
  | matched | stopped => exact counted

def Counts (r : Recognizer) (run : Matcher → Progress → Outcome) : Prop :=
  ∀ matcher before, before.fuel < UInt32.size →
    r.Counted before (run matcher before) ∧
      ((run matcher before).verdict = .matched → (run matcher before).state.fuel < before.fuel)

theorem testToken_counted (id : TokenId) (state : Progress) :
    r.Counted state (r.testToken id state) := by
  unfold testToken
  split
  · exact ⟨.refl state, by simp, by simp⟩
  · dsimp only
    split
    · split
      · exact Regular.counted ((Regular.refl state).congr rfl rfl) (by simp)
      · exact Regular.counted ((Regular.refl state).congr rfl rfl) (by simp)
    · exact Regular.counted ((Regular.refl state).congr rfl rfl) (by simp)

theorem runParts_counted (counts : r.Counts run) (parts : List Matcher) (state : Progress)
    (small : state.fuel < UInt32.size) :
    r.Counted state (runParts run parts state) ∧
      ∀ trial ∈ partTrials run parts state, r.Regular state trial.before := by
  induction parts generalizing state with
  | nil => exact ⟨(Regular.refl state).counted (by simp), List.forall_mem_nil _⟩
  | cons part rest ih =>
      obtain ⟨head, -⟩ := counts part state small
      rw [runParts, partTrials, List.forall_mem_cons]
      rcases ran : run part state with ⟨verdict, after⟩
      rw [ran] at head
      cases verdict with
      | matched =>
          obtain ⟨tail, inside⟩ := ih after (Nat.lt_of_le_of_lt head.regular.fuel small)
          refine ⟨tail.onward head.regular, .refl state, fun trial later => ?_⟩
          exact head.regular.trans (inside trial later)
      | failed | stopped => exact ⟨head, .refl state, List.forall_mem_nil _⟩

theorem runChoice_counted (counts : r.Counts run) (place : Bookmark)
    (alternatives : List Matcher) (state : Progress) (small : state.fuel < UInt32.size) :
    r.Counted state (runChoice run place alternatives state) ∧
      ∀ trial ∈ choiceTrials run place alternatives state, r.Regular state trial.before := by
  induction alternatives generalizing state with
  | nil => exact ⟨(Regular.refl state).counted (by simp), List.forall_mem_nil _⟩
  | cons alternative rest ih =>
      obtain ⟨head, -⟩ := counts alternative state small
      rw [runChoice, choiceTrials, List.forall_mem_cons]
      rcases ran : run alternative state with ⟨verdict, after⟩
      rw [ran] at head
      cases verdict with
      | failed =>
          have back : r.Regular state (after.backtrack place) :=
            head.regular.congr (after.backtrack_fuel place) (after.backtrack_depth place)
          obtain ⟨tail, inside⟩ := ih _ (Nat.lt_of_le_of_lt back.fuel small)
          exact ⟨tail.onward back, .refl state, fun trial later => back.trans (inside trial later)⟩
      | matched | stopped => exact ⟨head, .refl state, List.forall_mem_nil _⟩

theorem ended_counted (bounds : Bounds) (count : Nat) (state : Progress) :
    r.Counted state (ended bounds count state) := by
  unfold ended
  split
  · exact (Regular.refl state).counted (by simp)
  · exact (Regular.refl state).counted (by simp)

/-- As many repetitions have been counted as units of fuel were spent, at most. -/
theorem repeatFrom_counted (counts : r.Counts run) (bounds : Bounds) (body : Matcher)
    (rounds count : Nat) (state : Progress) (counted : count + state.fuel < UInt32.size) :
    r.Counted state (repeatFrom run bounds body rounds count state) ∧
      ∀ trial ∈ roundTrials run bounds body rounds count state, r.Regular state trial.before := by
  induction rounds generalizing count state with
  | zero => exact ⟨(Regular.refl state).counted (by simp), List.forall_mem_nil _⟩
  | succ rounds ih =>
      obtain ⟨head, spends⟩ := counts body state (by omega)
      rw [repeatFrom, roundTrials]
      by_cases more : bounds.allowsMore count = true
      · rw [if_pos more, if_pos more, List.forall_mem_cons]
        rcases ran : run body state with ⟨verdict, after⟩
        rw [ran] at head spends
        cases verdict with
        | stopped why => exact ⟨head, .refl state, List.forall_mem_nil _⟩
        | failed =>
            exact ⟨(ended_counted bounds count after).onward head.regular, .refl state,
              List.forall_mem_nil _⟩
        | matched =>
            have less : after.fuel < state.fuel := spends rfl
            -- the repetition was paid for, so the count is still one that 32 bits can hold
            have room : ¬ UInt32.size ≤ count + 1 := by omega
            dsimp only
            rw [if_neg room]
            by_cases still : after.cursor = state.cursor
            · rw [if_pos still, if_pos (.inr still)]
              exact ⟨(ended_counted bounds _ after).onward head.regular, .refl state,
                List.forall_mem_nil _⟩
            · rw [if_neg still, if_neg (not_or.mpr ⟨room, still⟩)]
              obtain ⟨tail, inside⟩ := ih (count + 1) after (by omega)
              refine ⟨tail.onward head.regular, .refl state, fun trial later => ?_⟩
              exact head.regular.trans (inside trial later)
      · rw [if_neg more, if_neg more]
        exact ⟨ended_counted bounds count state, List.forall_mem_nil _⟩

theorem runRule_counted (conservative : Conservative run) (counts : r.Counts run) (id : RuleId)
    (state : Progress) (small : state.fuel < UInt32.size) :
    r.Counted state (r.runRule run id state) ∧
      ∀ trial ∈ r.ruleTrials run id state, r.Regular state trial.before := by
  unfold runRule ruleTrials
  by_cases full : r.limits.depth.toNat ≤ state.depth
  · rw [if_pos full, if_pos full]
    exact ⟨(Regular.refl state).counted (by simp), List.forall_mem_nil _⟩
  · rw [if_neg full, if_neg full]
    have entered : r.Regular state { state with depth := state.depth + 1 } := by
      constructor
      · exact Nat.le_refl _
      · exact Nat.le_succ _
      · dsimp only
        omega
    cases declared : r.table.rule? id with
    | none => exact ⟨⟨entered, by simp, by simp⟩, List.forall_mem_nil _⟩
    | some rule =>
        have begun : r.Regular state (r.opened id (state.enter id)) := by
          unfold opened
          split
          · exact entered.congr rfl rfl
          · exact entered.congr rfl rfl
        obtain ⟨same, fuel, depth⟩ :=
          runBody_opened (r := r) conservative id rule.matcher (state.enter id)
        obtain ⟨inner, -⟩ := counts rule.matcher (r.opened id (state.enter id))
          (Nat.lt_of_le_of_lt begun.fuel small)
        have kept := runBody_atomic (r := r) conservative id rule.matcher (state.enter id)
        refine ⟨?_, List.forall_mem_singleton.mpr begun⟩
        dsimp only
        rcases ran : r.runBody run id rule.matcher (state.enter id) with ⟨verdict, after⟩
        rw [ran] at kept same fuel depth
        have regular : r.Regular state after := begun.trans (inner.regular.congr fuel depth)
        cases verdict with
        | matched | failed =>
            -- as many rules are left as were entered
            simp only [leaveRule_of_depth kept.1]
            refine ⟨⟨regular.fuel, Nat.le_refl _, Nat.le_max_left _ _⟩, ?_, ?_⟩
            · simp
            · simp
        | stopped why =>
            refine ⟨regular, ?_, ?_⟩
            · exact fun fault => inner.overflow (same.symm.trans fault)
            · exact fun fault => inner.underflow (same.symm.trans fault)

theorem runMatcher_counted (conservative : Conservative run) (counts : r.Counts run)
    (matcher : Matcher) (state : Progress) (small : state.fuel < UInt32.size) :
    r.Counted state (r.runMatcher run matcher state) ∧
      ∀ trial ∈ r.innerTrials run matcher state, r.Regular state trial.before := by
  cases matcher with
  | token id => exact ⟨testToken_counted id state, List.forall_mem_nil _⟩
  | rule id => exact runRule_counted conservative counts id state small
  | sequence parts =>
      obtain ⟨counted, inside⟩ := runParts_counted counts parts state small
      exact ⟨counted.undone, inside⟩
  | choice alternatives => exact runChoice_counted counts state.bookmark alternatives state small
  | repeated bounds body =>
      obtain ⟨counted, inside⟩ :=
        repeatFrom_counted counts bounds body (state.fuel + 1) 0 state (by omega)
      exact ⟨counted.undone, inside⟩

theorem tryWithin_counts (nesting : Nat) : r.Counts (r.tryWithin nesting) := by
  induction nesting with
  | zero =>
      intro matcher before _
      rw [tryWithin]
      exact ⟨(Regular.refl before).counted (by simp), by simp⟩
  | succ nesting ih =>
      intro matcher before small
      refine ⟨?_, fun matched => ?_⟩
      · rw [tryWithin, step]
        cases paid : before.fuel with
        | zero => exact (Regular.refl before).counted (by simp)
        | succ fuel =>
            have spent : r.Regular before { before with fuel := fuel } := .spend paid
            obtain ⟨counted, -⟩ := runMatcher_counted (tryWithin_conservative nesting) ih matcher
              { before with fuel := fuel } (Nat.lt_of_le_of_lt spent.fuel small)
            exact counted.onward spent
      · rcases ran : r.tryWithin (nesting + 1) matcher before with ⟨verdict, after⟩
        rw [ran] at matched
        cases matched
        exact tryWithin_fuel_lt ran

/-- Whether the trials that were made are all paid for from the fuel of a state, one unit each, and
each of them begins and ends with its counters in order, as the whole does. -/
structure Accounted (r : Recognizer) (before : Progress) (trials : List Trial)
    (outcome : Outcome) : Prop where
  spent : outcome.state.fuel + trials.length = before.fuel
  counted : r.Counted before outcome
  inside : ∀ trial ∈ trials, 0 < trial.before.fuel ∧ r.Regular before trial.before ∧
    r.Counted trial.before trial.outcome

theorem tryWithin_accounted (nesting : Nat) (matcher : Matcher) (before : Progress)
    (small : before.fuel < UInt32.size) :
    r.Accounted before (r.trialsWithin nesting matcher before)
      (r.tryWithin nesting matcher before) := by
  refine ⟨tryWithin_pays nesting matcher before, (tryWithin_counts nesting matcher before small).1,
    ?_⟩
  induction nesting generalizing matcher before with
  | zero => exact List.forall_mem_nil _
  | succ nesting ih =>
      cases paid : before.fuel with
      | zero =>
          simp only [trialsWithin, paid]
          exact List.forall_mem_nil _
      | succ fuel =>
          have spent : r.Regular before { before with fuel := fuel } := .spend paid
          have less : fuel < UInt32.size := Nat.lt_of_le_of_lt spent.fuel small
          obtain ⟨-, begun⟩ := runMatcher_counted (tryWithin_conservative nesting)
            (tryWithin_counts nesting) matcher { before with fuel := fuel } less
          simp only [trialsWithin, paid, List.forall_mem_cons]
          refine ⟨⟨?_, .refl before, (tryWithin_counts (nesting + 1) matcher before small).1⟩, ?_⟩
          · exact Nat.lt_of_lt_of_eq (Nat.succ_pos fuel) paid.symm
          · intro trial member
            obtain ⟨inner, listed, deeper⟩ := List.mem_flatMap.mp member
            have onward := begun inner listed
            obtain ⟨some, regular, counted⟩ := ih inner.matcher inner.before
              (Nat.lt_of_le_of_lt onward.fuel less) trial deeper
            exact ⟨some, spent.trans (onward.trans regular), counted⟩

theorem run_accounted (r : Recognizer) (id : RuleId) (journal : Option (Array Step)) :
    r.Accounted (.start r.limits journal) (r.runTrials id journal) (r.run id journal) := by
  have small : (Progress.start r.limits journal).fuel < UInt32.size := r.limits.fuel.toNat_lt
  obtain ⟨counted, begun⟩ := runRule_counted (tryWithin_conservative _) (tryWithin_counts _) id
    (.start r.limits journal) small
  refine ⟨?_, counted, ?_⟩
  · have pays := tryWithin_pays (r := r) (Progress.start r.limits journal).fuel
    have spent := runRule_spent (r := r) (tryWithin_conservative _) pays id
      (.start r.limits journal)
    rw [runTrials, length_flatMap_eq_total (r.trialsWithin _)]
    exact spent
  · intro trial member
    obtain ⟨inner, listed, deeper⟩ := List.mem_flatMap.mp member
    have onward := begun inner listed
    obtain ⟨some, regular, counted⟩ := (tryWithin_accounted _ inner.matcher inner.before
      (Nat.lt_of_le_of_lt onward.fuel small)).inside trial deeper
    exact ⟨some, onward.trans regular, counted⟩

/-- What can be done with the state of a match from outside, each time under rules, a watch and
limits of its own. -/
inductive Use where
  | run (r : Recognizer) (id : RuleId) (journal : Option (Array Step))
  | attempt (r : Recognizer) (matcher : Matcher) (journal : Option (Array Step))
  | next (r : Recognizer)
  | restore (place : Bookmark)

def Use.apply (state : Progress) : Use → Progress
  | .run r id journal => (r.run id journal).state
  | .attempt r matcher journal => (r.attempt matcher { state with journal := journal }).state
  | .next r => (r.next state).2
  | .restore place => state.restore place

def used (uses : List Use) : Progress := uses.foldl Use.apply (.start .standard none)

/-- Whether the counters of a state fit in 32 bits. -/
def Narrow (state : Progress) : Prop := state.fuel < UInt32.size ∧ state.depth < UInt32.size

theorem Counted.narrow (counted : r.Counted before outcome) (narrow : Narrow before) :
    Narrow outcome.state := by
  constructor
  · exact Nat.lt_of_le_of_lt counted.regular.fuel narrow.1
  · apply Nat.lt_of_le_of_lt counted.regular.deep
    exact Nat.max_lt.mpr ⟨narrow.2, r.limits.depth.toNat_lt⟩

theorem narrow_start (limits : Limits) (journal : Option (Array Step)) :
    Narrow (.start limits journal) := by
  constructor
  · exact limits.fuel.toNat_lt
  · exact Nat.zero_lt_of_lt limits.fuel.toNat_lt

theorem next_counters (r : Recognizer) (state : Progress) :
    (r.next state).2.fuel = state.fuel ∧ (r.next state).2.depth = state.depth := by
  unfold next
  split
  · exact ⟨rfl, rfl⟩
  · exact ⟨rfl, rfl⟩

theorem Use.narrow_apply (use : Use) (state : Progress) (narrow : Narrow state) :
    Narrow (use.apply state) := by
  cases use with
  | run r id journal => exact (run_accounted r id journal).counted.narrow (narrow_start _ _)
  | attempt r matcher journal =>
      have accounted := tryWithin_accounted (r := r) state.fuel matcher
        { state with journal := journal } narrow.1
      exact accounted.counted.narrow narrow
  | next r =>
      obtain ⟨fuel, depth⟩ := next_counters r state
      constructor
      · exact Nat.lt_of_le_of_lt (Nat.le_of_eq fuel) narrow.1
      · exact Nat.lt_of_le_of_lt (Nat.le_of_eq depth) narrow.2
  | restore place => exact narrow

theorem narrow_used (uses : List Use) (state : Progress) (narrow : Narrow state) :
    Narrow (uses.foldl Use.apply state) := by
  induction uses generalizing state with
  | nil => exact narrow
  | cons use rest ih => exact ih (use.apply state) (use.narrow_apply state narrow)

/-- The counters of a match never leave their 32 bits, whatever was done with its state before. What
an attempt or a run spends is one unit for each trial in it, no rule is entered beyond the limit or
left that was not entered, and no repetition is counted that there is no number for. -/
theorem used_accounted (uses : List Use) :
    Narrow (used uses) ∧
    (∀ (r : Recognizer) (matcher : Matcher) (journal : Option (Array Step)),
      let before := { used uses with journal := journal }
      r.Accounted before (r.trials matcher before) (r.attempt matcher before)) ∧
    (∀ (r : Recognizer) (id : RuleId) (journal : Option (Array Step)),
      r.Accounted (.start r.limits journal) (r.runTrials id journal) (r.run id journal)) ∧
    (∀ r : Recognizer, (r.next (used uses)).2.fuel = (used uses).fuel ∧
      (r.next (used uses)).2.depth = (used uses).depth) ∧
    ∀ place, ((used uses).restore place).fuel = (used uses).fuel ∧
      ((used uses).restore place).depth = (used uses).depth := by
  have narrow : Narrow (used uses) := narrow_used uses _ (narrow_start .standard none)
  refine ⟨narrow, fun r matcher journal => ?_, run_accounted, fun r => next_counters r _,
    fun place => ⟨rfl, rfl⟩⟩
  exact tryWithin_accounted _ matcher { used uses with journal := journal } narrow.1

end Recognizer

end TextGrammar
