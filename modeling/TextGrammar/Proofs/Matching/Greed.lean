import TextGrammar.Proofs.Matching.Adequacy
import TextGrammar.Proofs.Matching.Record
import TextGrammar.Proofs.Matching.Trial

/-!
How far a repetition goes. It takes all it can and gives nothing back, so where one without an
upper bound has ended, its body takes no further lexeme, and the same body behind it can match only
by taking none. It is also soon over: each round but the last takes a lexeme, so there is at most
one round more than there are lexemes left, however many the bounds ask for.
-/

namespace TextGrammar

open Notation (Bounds)

theorem Outcome.eq_of_verdict {outcome : Outcome} {verdict : Verdict}
    (same : outcome.verdict = verdict) : outcome = ⟨verdict, outcome.state⟩ := by
  rw [← same]

section Finds

variable {table : RuleTable} {watch : Watch} {lexemes : Array Lexeme} {bounds : Bounds}
  {body : Matcher}

theorem Finds.rounds_greedy (endless : bounds.most = none) {count cursor stop next : Nat}
    {forest behind : Forest}
    (found : Finds table watch lexemes (.rounds bounds body count) cursor (.matched stop forest))
    (again : Finds table watch lexemes (.one body) stop (.matched next behind)) :
    next = stop := by
  have allowed : ∀ count, bounds.allowsMore count = true := by
    intro count
    simp [Notation.Bounds.allowsMore, endless]
  -- each round leaves the rest of the rounds to find where they end
  generalize rounds : Task.rounds bounds body count = task at found
  generalize ended : Finding.matched stop forest = finding at found
  induction found generalizing count forest with
  | roundsFull full =>
      cases rounds
      simp [allowed] at full
  | roundsFail more head =>
      cases rounds
      unfold Finding.ofCount at ended
      split at ended
      · cases ended
        cases head.unique again
      · cases ended
  | roundsEmpty more head =>
      cases rounds
      cases ended
      cases again.unique head
      rfl
  | @roundsNext _ _ _ _ _ _ finding more head moved tail _ ih =>
      cases rounds
      cases finding with
      | matched =>
          cases ended
          exact ih rfl rfl
      | failed => cases ended
  | _ => cases rounds

theorem Finds.repeated_greedy (endless : bounds.most = none) {cursor stop next : Nat}
    {forest behind : Forest}
    (found : Finds table watch lexemes (.one (.repeated bounds body)) cursor (.matched stop forest))
    (again : Finds table watch lexemes (.one body) stop (.matched next behind)) :
    next = stop := by
  cases found with
  | repeated rounds => exact rounds.rounds_greedy endless again

end Finds

namespace Recognizer

variable {r : Recognizer} {run : Matcher → Progress → Outcome}

theorem Sound.finds (sound : r.Sound run) {matcher : Matcher} {before after : Progress}
    (matched : run matcher before = ⟨.matched, after⟩) :
    ∃ forest, r.Finds (.one matcher) before.cursor (.matched after.cursor forest) := by
  have backed := sound matcher before
  rw [matched] at backed
  obtain ⟨forest, found, -⟩ := backed
  exact ⟨forest, found⟩

theorem Sound.cursor_le (sound : r.Sound run) {matcher : Matcher} {before after : Progress}
    (matched : run matcher before = ⟨.matched, after⟩) :
    before.cursor ≤ after.cursor ∧ after.cursor ≤ max before.cursor r.lexemes.size := by
  obtain ⟨forest, found⟩ := sound.finds matched
  have faithful := found.faithful
  exact ⟨faithful.spans.le, faithful.inside⟩

/-- Each round that another one follows has taken a lexeme. -/
theorem length_roundTrials_le (sound : r.Sound run) (bounds : Bounds) (body : Matcher)
    (rounds count : Nat) (state : Progress) :
    (roundTrials run bounds body rounds count state).length ≤
      r.lexemes.size - state.cursor + 1 := by
  induction rounds generalizing count state with
  | zero => exact Nat.zero_le _
  | succ rounds ih =>
      rw [roundTrials]
      by_cases more : bounds.allowsMore count = true
      · rw [if_pos more, List.length_cons]
        apply Nat.succ_le_succ
        rcases ran : run body state with ⟨verdict, after⟩
        cases verdict with
        | failed | stopped => exact Nat.zero_le _
        | matched =>
            dsimp only
            by_cases last : UInt32.size ≤ count + 1 ∨ after.cursor = state.cursor
            · rw [if_pos last]
              exact Nat.zero_le _
            · rw [if_neg last]
              have moved : after.cursor ≠ state.cursor := fun still => last (.inr still)
              have reached := sound.cursor_le ran
              have fewer := ih (count + 1) after
              omega
      · rw [if_neg more]
        exact Nat.zero_le _

theorem length_stages_repeated_le (r : Recognizer) (bounds : Bounds) (body : Matcher)
    (before : Progress) :
    (r.stages (.repeated bounds body) before).length ≤ r.lexemes.size - before.cursor + 1 := by
  unfold stages
  cases before.fuel with
  | zero => exact Nat.zero_le _
  | succ fuel =>
      exact length_roundTrials_le (tryWithin_sound fuel) bounds body (fuel + 1) 0
        { before with fuel := fuel }

/-- Whether trials are the rounds of an attempt to repeat a matcher: each is a trial of that
matcher, and what is spent is spent on the attempt itself and on the trials in the rounds. -/
structure Rounds (r : Recognizer) (bounds : Bounds) (body : Matcher) (before : Progress)
    (rounds : List Trial) : Prop where
  tried : ∀ round ∈ rounds, round = trial (r.tryWithin (before.fuel - 1)) body round.before
  inside : (r.trials (.repeated bounds body) before).tail = rounds.flatMap fun round =>
    r.trialsWithin (before.fuel - 1) round.matcher round.before
  spent : (r.attempt (.repeated bounds body) before).state.fuel +
    (r.trials (.repeated bounds body) before).length = before.fuel

theorem rounds_stages (r : Recognizer) (bounds : Bounds) (body : Matcher) (before : Progress) :
    r.Rounds bounds body before (r.stages (.repeated bounds body) before) where
  tried := by
    unfold stages
    cases before.fuel with
    | zero => exact fun _ member => nomatch member
    | succ fuel => exact roundTrials_eq_trial (fuel + 1) 0 { before with fuel := fuel }
  inside := r.tail_trials _ before
  spent := r.attempt_spent _ before

theorem stages_of_pair {first second : Matcher} {before after : Progress}
    (matched : r.attempt (.sequence [first, second]) before = ⟨.matched, after⟩) :
    ∃ between nesting,
      r.stages (.sequence [first, second]) before =
        [trial (r.tryWithin nesting) first { before with fuel := nesting },
          trial (r.tryWithin nesting) second between] ∧
      r.tryWithin nesting first { before with fuel := nesting } = ⟨.matched, between⟩ ∧
      r.tryWithin nesting second between = ⟨.matched, after⟩ := by
  unfold attempt at matched
  unfold stages
  cases paid : before.fuel with
  | zero =>
      rw [paid] at matched
      cases matched
  | succ fuel =>
      rw [paid, tryWithin, step, paid] at matched
      simp only [runMatcher, runSequence, runParts] at matched
      simp only [innerTrials, partTrials]
      rcases ran : r.tryWithin fuel first { before with fuel := fuel } with ⟨verdict, between⟩
      rw [ran] at matched
      cases verdict with
      | failed | stopped => cases matched
      | matched =>
          dsimp only at matched ⊢
          rcases went : r.tryWithin fuel second between with ⟨verdict, last⟩
          rw [went] at matched
          cases verdict with
          | failed | stopped => cases matched
          | matched =>
              cases matched
              exact ⟨between, fuel, rfl, ran, went⟩

/-- A repetition is greedy, gives nothing back and is bounded by the lexemes. Its rounds account for
all that it spends, and there is at most one more of them than there are lexemes left, whatever its
bounds are. Where one without an upper bound has matched, the body takes no further lexeme there,
with whatever fuel and however deep it is tried. So where the body stands behind the repetition
once more and both match, it has matched there without taking a lexeme. -/
theorem attempt_greedy (r : Recognizer) (bounds : Bounds) (body : Matcher) (before : Progress) :
    r.Rounds bounds body before (r.stages (.repeated bounds body) before) ∧
    (r.stages (.repeated bounds body) before).length ≤ r.lexemes.size - before.cursor + 1 ∧
    (bounds.most = none →
      (∀ after, r.attempt (.repeated bounds body) before = ⟨.matched, after⟩ →
        ∀ limits again behind, again.cursor = after.cursor →
          { r with limits := limits }.attempt body again = ⟨.matched, behind⟩ →
          behind.cursor = after.cursor) ∧
      ∀ after, r.attempt (.sequence [.repeated bounds body, body]) before = ⟨.matched, after⟩ →
        ∃ first second,
          r.stages (.sequence [.repeated bounds body, body]) before = [first, second] ∧
          first.matcher = .repeated bounds body ∧ first.outcome = ⟨.matched, second.before⟩ ∧
          second.matcher = body ∧ second.outcome = ⟨.matched, after⟩ ∧
          after.cursor = second.before.cursor) := by
  refine ⟨r.rounds_stages bounds body before, length_stages_repeated_le r bounds body before, ?_⟩
  intro endless
  constructor
  · intro after matched limits again behind here ran
    obtain ⟨_, found⟩ := (tryWithin_sound (r := r) before.fuel).finds matched
    -- what there is to find does not hang on limits
    obtain ⟨_, reached⟩ :=
      (tryWithin_sound (r := { r with limits := limits }) again.fuel).finds ran
    rw [here] at reached
    exact found.repeated_greedy endless reached
  · intro after matched
    obtain ⟨between, nesting, made, ran, went⟩ := stages_of_pair matched
    have sound := tryWithin_sound (r := r) nesting
    obtain ⟨_, found⟩ := sound.finds ran
    obtain ⟨_, reached⟩ := sound.finds went
    exact ⟨_, _, made, rfl, ran, rfl, went, found.repeated_greedy endless reached⟩

/-- At the one lexeme for them, lists are tried twice where at least five are asked for: one list
takes it and one takes none. With what is in the lists that makes eight trials. A list behind all
the lists takes none either. -/
theorem attempt_greedy_listing :
    let before : Progress := ⟨1, .empty, 20, 0, none⟩
    let list : Matcher := .rule ⟨1⟩
    let pair : Matcher := .sequence [.repeated ⟨5, none⟩ list, list]
    (listing.stages (.repeated ⟨5, none⟩ list) before).length ≤ 2 ∧
      (listing.trials (.repeated ⟨5, none⟩ list) before).length = 8 ∧
      (listing.attempt (.repeated ⟨5, none⟩ list) before).verdict = .matched ∧
      (listing.attempt list ⟨2, .empty, 20, 0, none⟩).state.cursor = 2 ∧
      ∃ first second, listing.stages pair before = [first, second] ∧
        second.before.cursor = (listing.attempt pair before).state.cursor := by
  intro before list pair
  obtain ⟨rounds, few, greedy⟩ := attempt_greedy listing ⟨5, none⟩ list before
  obtain ⟨further, idle⟩ := greedy rfl
  have matched : (listing.attempt (.repeated ⟨5, none⟩ list) before).verdict = .matched := by
    decide +kernel
  have here : (listing.attempt (.repeated ⟨5, none⟩ list) before).state.cursor = 2 := by
    decide +kernel
  have again : (listing.attempt list ⟨2, .empty, 20, 0, none⟩).verdict = .matched := by
    decide +kernel
  have both : (listing.attempt pair before).verdict = .matched := by decide +kernel
  obtain ⟨first, second, made, -, -, -, -, still⟩ := idle _ (Outcome.eq_of_verdict both)
  have stays := further _ (Outcome.eq_of_verdict matched) listing.limits ⟨2, .empty, 20, 0, none⟩ _
    here.symm (Outcome.eq_of_verdict again)
  have left : (listing.attempt (.repeated ⟨5, none⟩ list) before).state.fuel = 12 := by
    decide +kernel
  have spent := rounds.spent
  rw [left] at spent
  exact ⟨few, Nat.add_left_cancel spent, matched, stays.trans here, first, second, made, still.symm⟩

end Recognizer

end TextGrammar
