import TextGrammar.Proofs.Matching.Adequacy

/-!
Why a match is given up. Where every number in a table and in the matcher means something, a
match meets no fault. It is given up for want of fuel or because rules are nested too deeply, and
for no other reason: the trail is closed where it was opened, as many rules are left as were
entered, and a repetition spends fuel each time, of which there is less than a counter can hold.
-/

namespace TextGrammar

open Notation (Bounds)

structure Outcome.Clean (before : Progress) (outcome : Outcome) : Prop where
  faultless : ∀ fault, outcome.verdict ≠ .stopped (.fault fault)
  fuel : outcome.state.fuel ≤ before.fuel

namespace Outcome

variable {before between : Progress} {outcome : Outcome}

theorem Clean.onward (clean : outcome.Clean between) (less : between.fuel ≤ before.fuel) :
    outcome.Clean before := ⟨clean.faultless, Nat.le_trans clean.fuel less⟩

theorem Clean.undone {place : Bookmark} (clean : outcome.Clean before) :
    (outcome.undone place).Clean before := by
  obtain ⟨verdict, after⟩ := outcome
  cases verdict with
  | failed => exact ⟨clean.faultless, by simpa [Outcome.undone] using clean.fuel⟩
  | matched | stopped => exact clean

end Outcome

namespace Recognizer

/-- Whether a way to run matchers meets no fault with those that a table has names for, given
less fuel than a counter can hold. A match is never free. -/
def Faultless (table : RuleTable) (run : Matcher → Progress → Outcome) : Prop :=
  ∀ matcher, matcher.Within table → ∀ before, before.fuel < UInt32.size →
    (run matcher before).Clean before ∧
      ((run matcher before).verdict = .matched → (run matcher before).state.fuel < before.fuel)

variable {r : Recognizer} {table : RuleTable} {run : Matcher → Progress → Outcome}
  {before : Progress}

theorem testToken_clean {id : TokenId} {name : String}
    (named : r.table.lexicon.name? id = some name) : (r.testToken id before).Clean before := by
  obtain ⟨decided, kept⟩ := testToken_decided (r := r) id before fun _ => ⟨name, named⟩
  exact ⟨fun fault => decided _, Nat.le_of_eq kept⟩

theorem runRule_clean (conservative : Conservative run) (faultless : Faultless r.table run)
    (closed : r.table.Closed) {id : RuleId} {rule : Rule}
    (declared : r.table.rule? id = some rule) (small : before.fuel < UInt32.size) :
    (r.runRule run id before).Clean before := by
  unfold runRule
  split
  · exact ⟨fun _ => by simp, Nat.le_refl _⟩
  · rw [declared]
    dsimp only
    -- the rule is left at the depth at which it was entered, which is not the outermost one
    have kept := runBody_atomic (r := r) conservative id rule.matcher (before.enter id)
    obtain ⟨trail, same, left⟩ :=
      runBody_like (r := r) conservative id rule.matcher (before.enter id)
    obtain ⟨clean, -⟩ := faultless rule.matcher (closed id rule declared)
      { before.enter id with trail := trail } small
    rcases ran : r.runBody run id rule.matcher (before.enter id) with ⟨verdict, after⟩
    rw [ran] at kept same left
    have less : after.fuel ≤ before.fuel := Nat.le_trans (Nat.le_of_eq left) clean.fuel
    cases verdict with
    | matched =>
        simp only [leaveRule_of_depth kept.1]
        exact ⟨fun _ => by simp, less⟩
    | failed =>
        simp only [leaveRule_of_depth kept.1]
        exact ⟨fun _ => by simp, less⟩
    | stopped why => exact ⟨fun fault stopped => clean.faultless fault (same ▸ stopped), less⟩

theorem runParts_clean (faultless : Faultless table run) (parts : List Matcher)
    (within : Matcher.AllWithin table parts) (small : before.fuel < UInt32.size) :
    (runParts run parts before).Clean before := by
  induction parts generalizing before with
  | nil => exact ⟨fun _ => by simp [runParts], Nat.le_refl _⟩
  | cons part rest ih =>
      obtain ⟨clean, -⟩ := faultless part within.1 before small
      rw [runParts]
      rcases ran : run part before with ⟨verdict, after⟩
      rw [ran] at clean
      cases verdict with
      | matched =>
          exact (ih within.2 (Nat.lt_of_le_of_lt clean.fuel small)).onward clean.fuel
      | failed | stopped => exact clean

theorem runChoice_clean (faultless : Faultless table run) (alternatives : List Matcher)
    (within : Matcher.AllWithin table alternatives) (place : Bookmark)
    (small : before.fuel < UInt32.size) :
    (runChoice run place alternatives before).Clean before := by
  induction alternatives generalizing before with
  | nil => exact ⟨fun _ => by simp [runChoice], Nat.le_refl _⟩
  | cons alternative rest ih =>
      obtain ⟨clean, -⟩ := faultless alternative within.1 before small
      rw [runChoice]
      rcases ran : run alternative before with ⟨verdict, after⟩
      rw [ran] at clean
      cases verdict with
      | failed =>
          have less : (after.backtrack place).fuel ≤ before.fuel := by simpa using clean.fuel
          exact (ih within.2 (Nat.lt_of_le_of_lt less small)).onward less
      | matched | stopped => exact clean

theorem ended_clean (bounds : Bounds) (count : Nat) : (ended bounds count before).Clean before := by
  unfold ended
  split <;> exact ⟨fun _ => by simp, Nat.le_refl _⟩

theorem repeatFrom_clean (faultless : Faultless table run) (bounds : Bounds) (body : Matcher)
    (within : body.Within table) (rounds count : Nat)
    (counted : count + before.fuel < UInt32.size) :
    (repeatFrom run bounds body rounds count before).Clean before := by
  induction rounds generalizing count before with
  | zero => exact ⟨fun _ => by simp [repeatFrom], Nat.le_refl _⟩
  | succ rounds ih =>
      obtain ⟨clean, spent⟩ := faultless body within before (by omega)
      rw [repeatFrom]
      split
      · rcases ran : run body before with ⟨verdict, after⟩
        rw [ran] at clean spent
        cases verdict with
        | stopped why => exact clean
        | failed => exact (ended_clean bounds count).onward clean.fuel
        | matched =>
            have less : after.fuel < before.fuel := spent rfl
            -- each repetition was paid for, so the count stays below what fuel there was
            have room : ¬UInt32.size ≤ count + 1 := by omega
            dsimp only
            rw [if_neg room]
            split
            · exact (ended_clean bounds _).onward clean.fuel
            · exact (ih (count + 1) (by omega)).onward clean.fuel
      · exact ended_clean bounds count

theorem runMatcher_clean (conservative : Conservative run) (faultless : Faultless r.table run)
    (closed : r.table.Closed) (matcher : Matcher) (within : matcher.Within r.table)
    (small : before.fuel < UInt32.size) : (r.runMatcher run matcher before).Clean before := by
  cases matcher with
  | token id =>
      obtain ⟨name, named⟩ := within
      exact testToken_clean named
  | rule id =>
      obtain ⟨rule, declared⟩ := within
      exact runRule_clean conservative faultless closed declared small
  | sequence parts => exact (runParts_clean faultless parts within small).undone
  | choice alternatives => exact runChoice_clean faultless alternatives within _ small
  | repeated bounds body =>
      exact (repeatFrom_clean faultless bounds body within _ 0 (by omega)).undone

theorem step_faultless (conservative : Conservative run) (faultless : Faultless r.table run)
    (closed : r.table.Closed) : Faultless r.table (r.step run) := by
  intro matcher within before small
  rw [step]
  cases paid : before.fuel with
  | zero =>
      refine ⟨⟨fun _ => by simp, Nat.le_refl before.fuel⟩, ?_⟩
      exact fun matched => nomatch matched
  | succ fuel =>
      rw [paid] at small
      have clean : (r.runMatcher run matcher { before with fuel := fuel }).Clean
          { before with fuel := fuel } :=
        runMatcher_clean conservative faultless closed matcher within (Nat.lt_of_succ_lt small)
      refine ⟨clean.onward ?_, fun _ => Nat.lt_succ_of_le clean.fuel⟩
      exact Nat.le_trans (Nat.le_succ fuel) (Nat.le_of_eq paid.symm)

theorem tryWithin_faultless (closed : r.table.Closed) (nesting : Nat) :
    Faultless r.table (r.tryWithin nesting) := by
  induction nesting with
  | zero =>
      intro matcher within before small
      exact ⟨⟨fun _ => by simp [tryWithin], Nat.le_refl _⟩, fun matched => nomatch matched⟩
  | succ nesting ih => exact step_faultless (tryWithin_conservative nesting) ih closed

theorem run_faultless (closed : r.table.Closed) {id : RuleId} {rule : Rule}
    (declared : r.table.rule? id = some rule) (journal : Option (Array Step)) (fault : Fault) :
    (r.run id journal).verdict ≠ .stopped (.fault fault) :=
  (runRule_clean (tryWithin_conservative _) (tryWithin_faultless closed _) closed declared
    r.limits.fuel.toNat_lt).faultless fault

end Recognizer

end TextGrammar
