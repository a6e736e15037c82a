import TextGrammar.Proofs.Matching.Atomicity

/-!
The trials that a match is made of. A matcher is tried by trying others, one behind the other, and
each of them costs a unit of fuel. Listed with all those that they are made of in turn, the trials
of a match are what its fuel was spent on: there are as many of them as units are missing in the
end, so none is left out and none is listed that was not made.
-/

namespace TextGrammar

open Notation (Bounds)

structure Trial where
  matcher : Matcher
  before : Progress
  outcome : Outcome

namespace Recognizer

def trial (run : Matcher → Progress → Outcome) (matcher : Matcher) (before : Progress) : Trial :=
  ⟨matcher, before, run matcher before⟩

def partTrials (run : Matcher → Progress → Outcome) : List Matcher → Progress → List Trial
  | [], _ => []
  | part :: rest, state =>
      trial run part state ::
        match run part state with
        | ⟨.matched, after⟩ => partTrials run rest after
        | _ => []

def choiceTrials (run : Matcher → Progress → Outcome) (place : Bookmark) :
    List Matcher → Progress → List Trial
  | [], _ => []
  | alternative :: rest, state =>
      trial run alternative state ::
        match run alternative state with
        | ⟨.failed, after⟩ => choiceTrials run place rest (after.backtrack place)
        | _ => []

def roundTrials (run : Matcher → Progress → Outcome) (bounds : Bounds) (body : Matcher) :
    (rounds count : Nat) → Progress → List Trial
  | 0, _, _ => []
  | rounds + 1, count, state =>
      if bounds.allowsMore count then
        trial run body state ::
          match run body state with
          | ⟨.matched, after⟩ =>
              if UInt32.size ≤ count + 1 ∨ after.cursor = state.cursor then []
              else roundTrials run bounds body rounds (count + 1) after
          | _ => []
      else []

def ruleTrials (r : Recognizer) (run : Matcher → Progress → Outcome) (id : RuleId)
    (state : Progress) : List Trial :=
  if r.limits.depth.toNat ≤ state.depth then []
  else
    match r.table.rule? id with
    | none => []
    | some rule => [trial run rule.matcher (r.opened id (state.enter id))]

def innerTrials (r : Recognizer) (run : Matcher → Progress → Outcome) (matcher : Matcher)
    (state : Progress) : List Trial :=
  match matcher with
  | .token _ => []
  | .rule id => r.ruleTrials run id state
  | .sequence parts => partTrials run parts state
  | .choice alternatives => choiceTrials run state.bookmark alternatives state
  | .repeated bounds body => roundTrials run bounds body (state.fuel + 1) 0 state

/-- A trial that can be paid for, and in front of one another all those that it is made of. -/
def trialsWithin (r : Recognizer) : Nat → Matcher → Progress → List Trial
  | 0, _, _ => []
  | nesting + 1, matcher, state =>
      match state.fuel with
      | 0 => []
      | fuel + 1 =>
          trial (r.tryWithin (nesting + 1)) matcher state ::
            (r.innerTrials (r.tryWithin nesting) matcher { state with fuel := fuel }).flatMap
              fun inner => r.trialsWithin nesting inner.matcher inner.before

/-- All the trials that an attempt pays for, in order. -/
def trials (r : Recognizer) (matcher : Matcher) (before : Progress) : List Trial :=
  r.trialsWithin before.fuel matcher before

/-- The trials that an attempt is made of, those inside them not among them, if there is fuel to
begin with it. -/
def stages (r : Recognizer) (matcher : Matcher) (before : Progress) : List Trial :=
  match before.fuel with
  | 0 => []
  | fuel + 1 => r.innerTrials (r.tryWithin fuel) matcher { before with fuel := fuel }

def runTrials (r : Recognizer) (id : RuleId) (journal : Option (Array Step)) : List Trial :=
  let state := Progress.start r.limits journal
  (r.ruleTrials (r.tryWithin state.fuel) id state).flatMap fun inner =>
    r.trialsWithin state.fuel inner.matcher inner.before

variable {r : Recognizer} {run : Matcher → Progress → Outcome}

def total (cost : Matcher → Progress → Nat) : List Trial → Nat
  | [] => 0
  | trial :: rest => cost trial.matcher trial.before + total cost rest

def Pays (cost : Matcher → Progress → Nat) (run : Matcher → Progress → Outcome) : Prop :=
  ∀ matcher before, (run matcher before).state.fuel + cost matcher before = before.fuel

theorem fuel_undone (place : Bookmark) (outcome : Outcome) :
    (outcome.undone place).state.fuel = outcome.state.fuel := by
  obtain ⟨verdict, after⟩ := outcome
  cases verdict with
  | failed => exact after.backtrack_fuel place
  | matched | stopped => rfl

theorem fuel_ended (bounds : Bounds) (count : Nat) (state : Progress) :
    (ended bounds count state).state.fuel = state.fuel := by
  unfold ended
  split <;> rfl

section Cost

variable {cost : Matcher → Progress → Nat}

theorem total_cons (trial : Trial) (rest : List Trial) :
    total cost (trial :: rest) = cost trial.matcher trial.before + total cost rest := rfl

theorem length_flatMap_eq_total (inner : Matcher → Progress → List Trial) (trials : List Trial) :
    (trials.flatMap fun trial => inner trial.matcher trial.before).length =
      total (fun matcher before => (inner matcher before).length) trials := by
  induction trials with
  | nil => rfl
  | cons trial rest ih => rw [List.flatMap_cons, List.length_append, ih, total_cons]

theorem testToken_fuel (id : TokenId) (state : Progress) :
    (r.testToken id state).state.fuel = state.fuel := by
  unfold testToken
  split
  · rfl
  · dsimp only
    split
    · split <;> rfl
    · rfl

theorem runParts_spent (pays : Pays cost run) (parts : List Matcher) (state : Progress) :
    (runParts run parts state).state.fuel + total cost (partTrials run parts state) =
      state.fuel := by
  induction parts generalizing state with
  | nil => rfl
  | cons part rest ih =>
      have head := pays part state
      rw [runParts, partTrials, total_cons]
      dsimp only [trial]
      rcases ran : run part state with ⟨verdict, after⟩
      rw [ran] at head
      dsimp only at head
      cases verdict with
      | matched =>
          have tail := ih after
          dsimp only
          omega
      | failed | stopped => exact head

theorem runChoice_spent (pays : Pays cost run) (place : Bookmark) (alternatives : List Matcher)
    (state : Progress) :
    (runChoice run place alternatives state).state.fuel +
      total cost (choiceTrials run place alternatives state) = state.fuel := by
  induction alternatives generalizing state with
  | nil => rfl
  | cons alternative rest ih =>
      have head := pays alternative state
      rw [runChoice, choiceTrials, total_cons]
      dsimp only [trial]
      rcases ran : run alternative state with ⟨verdict, after⟩
      rw [ran] at head
      dsimp only at head
      cases verdict with
      | failed =>
          have tail := ih (after.backtrack place)
          rw [Progress.backtrack_fuel] at tail
          dsimp only
          omega
      | matched | stopped => exact head

theorem repeatFrom_spent (pays : Pays cost run) (bounds : Bounds) (body : Matcher)
    (rounds count : Nat) (state : Progress) :
    (repeatFrom run bounds body rounds count state).state.fuel +
      total cost (roundTrials run bounds body rounds count state) = state.fuel := by
  induction rounds generalizing count state with
  | zero => rfl
  | succ rounds ih =>
      have head := pays body state
      rw [repeatFrom, roundTrials]
      by_cases more : bounds.allowsMore count = true
      · rw [if_pos more, if_pos more, total_cons]
        dsimp only [trial]
        rcases ran : run body state with ⟨verdict, after⟩
        rw [ran] at head
        dsimp only at head
        cases verdict with
        | stopped why => exact head
        | failed =>
            dsimp only
            rw [fuel_ended]
            exact head
        | matched =>
            dsimp only
            by_cases full : UInt32.size ≤ count + 1
            · rw [if_pos full, if_pos (.inl full)]
              exact head
            · rw [if_neg full]
              by_cases still : after.cursor = state.cursor
              · rw [if_pos still, if_pos (.inr still), fuel_ended]
                exact head
              · rw [if_neg still, if_neg (not_or.mpr ⟨full, still⟩)]
                have tail := ih (count + 1) after
                omega
      · rw [if_neg more, if_neg more, fuel_ended]
        rfl

theorem leaveRule_fuel (id : RuleId) (matched : Bool) (state : Progress) :
    (leaveRule id matched state).state.fuel = state.fuel := by
  unfold leaveRule
  split <;> rfl

theorem runRule_spent (conservative : Conservative run) (pays : Pays cost run) (id : RuleId)
    (state : Progress) :
    (r.runRule run id state).state.fuel + total cost (r.ruleTrials run id state) =
      state.fuel := by
  unfold runRule ruleTrials
  by_cases deep : r.limits.depth.toNat ≤ state.depth
  · rw [if_pos deep, if_pos deep]
    rfl
  · rw [if_neg deep, if_neg deep]
    cases declared : r.table.rule? id with
    | none => rfl
    | some rule =>
        obtain ⟨-, same, -⟩ := runBody_opened (r := r) conservative id rule.matcher (state.enter id)
        have body := pays rule.matcher (r.opened id (state.enter id))
        have begun : (r.opened id (state.enter id)).fuel = state.fuel := by
          unfold opened
          split <;> rfl
        rw [← same, begun] at body
        dsimp only [trial]
        rw [total_cons]
        rcases ran : r.runBody run id rule.matcher (state.enter id) with ⟨verdict, after⟩
        rw [ran] at body
        cases verdict with
        | matched | failed =>
            dsimp only
            rw [leaveRule_fuel]
            exact body
        | stopped why => exact body

theorem runMatcher_spent (conservative : Conservative run) (pays : Pays cost run)
    (matcher : Matcher) (state : Progress) :
    (r.runMatcher run matcher state).state.fuel +
      total cost (r.innerTrials run matcher state) = state.fuel := by
  cases matcher with
  | token id => exact testToken_fuel id state
  | rule id => exact runRule_spent conservative pays id state
  | sequence parts =>
      simp only [runMatcher, runSequence, fuel_undone]
      exact runParts_spent pays parts state
  | choice alternatives => exact runChoice_spent pays state.bookmark alternatives state
  | repeated bounds body =>
      simp only [runMatcher, runRepeated, fuel_undone]
      exact repeatFrom_spent pays bounds body (state.fuel + 1) 0 state

end Cost

/-- A trial costs one unit of fuel, and so do all the trials in it. -/
theorem tryWithin_pays (nesting : Nat) :
    Pays (fun matcher before => (r.trialsWithin nesting matcher before).length)
      (r.tryWithin nesting) := by
  induction nesting with
  | zero => exact fun _ _ => rfl
  | succ nesting ih =>
      intro matcher before
      rw [tryWithin, step]
      cases paid : before.fuel with
      | zero => simp only [trialsWithin, paid, List.length_nil, Nat.add_zero]
      | succ fuel =>
          have inside := runMatcher_spent (r := r) (tryWithin_conservative nesting) ih matcher
            { before with fuel := fuel }
          simp only [trialsWithin, paid, List.length_cons]
          rw [length_flatMap_eq_total (r.trialsWithin nesting)]
          dsimp only at inside
          omega

theorem tryWithin_fuel_lt {nesting : Nat} {matcher : Matcher} {before after : Progress}
    (matched : r.tryWithin nesting matcher before = ⟨.matched, after⟩) :
    after.fuel < before.fuel := by
  have paid := tryWithin_pays (r := r) nesting matcher before
  rw [matched] at paid
  cases nesting with
  | zero => cases matched
  | succ nesting =>
      cases fuel : before.fuel with
      | zero => simp [tryWithin, step, fuel] at matched
      | succ left =>
          simp only [trialsWithin, fuel, List.length_cons] at paid
          omega

theorem attempt_spent (r : Recognizer) (matcher : Matcher) (before : Progress) :
    (r.attempt matcher before).state.fuel + (r.trials matcher before).length = before.fuel :=
  tryWithin_pays before.fuel matcher before

theorem tail_trials (r : Recognizer) (matcher : Matcher) (before : Progress) :
    (r.trials matcher before).tail = (r.stages matcher before).flatMap fun stage =>
      r.trialsWithin (before.fuel - 1) stage.matcher stage.before := by
  unfold trials stages
  cases paid : before.fuel with
  | zero => rfl
  | succ fuel =>
      rw [trialsWithin, paid]
      rfl

theorem roundTrials_eq_trial {bounds : Bounds} {body : Matcher} (rounds count : Nat)
    (state : Progress) :
    ∀ round ∈ roundTrials run bounds body rounds count state,
      round = trial run body round.before := by
  induction rounds generalizing count state with
  | zero => exact fun _ member => nomatch member
  | succ rounds ih =>
      intro round member
      rw [roundTrials] at member
      split at member
      · rcases List.mem_cons.mp member with rfl | later
        · rfl
        · split at later
          · split at later
            · cases later
            · exact ih _ _ round later
          · cases later
      · cases member

end Recognizer

end TextGrammar
