import TextGrammar.Proofs.Matching.Adequacy
import TextGrammar.Proofs.Matching.Record
import TextGrammar.Proofs.Matching.Trial

/-!
Repetitions written out. A repetition stops at the first round that takes no lexeme, and lets it
stand for all that are still asked for. That comes to what the rounds would come to if they were
made one by one, since a matcher finds at one cursor always the same: the rounds left out would
have been more of those that take nothing. What they would have added is events, so the events
are the same where no round takes nothing.
-/

namespace TextGrammar

open Notation (Bounds)

def Notation.Bounds.beyond (bounds : Bounds) : Bounds :=
  ⟨0, bounds.most.map (· - bounds.least)⟩

/-- A repetition written out: a copy for each round that is asked for, and those beyond. -/
def Matcher.unrolled (bounds : Bounds) (body : Matcher) : Matcher :=
  .sequence (List.replicate bounds.least.toNat body ++ [.repeated bounds.beyond body])

/-- Whether a trial matched without taking a lexeme. -/
def Trial.Idle (trial : Trial) : Prop :=
  trial.outcome.verdict = .matched ∧ trial.outcome.state.cursor = trial.before.cursor

instance (trial : Trial) : Decidable trial.Idle := inferInstanceAs (Decidable (_ ∧ _))

/-- Whether two findings are the same, as long as nothing is watched. -/
def Finding.Agrees (left right : Finding) : Prop :=
  left.verdict = right.verdict ∧ ∀ start, left.cursorFrom start = right.cursorFrom start

theorem Notation.Bounds.allowsMore_beyond {bounds : Bounds} (proper : bounds.isProper = true)
    (count : Nat) :
    bounds.beyond.allowsMore count = bounds.allowsMore (bounds.least.toNat + count) := by
  obtain ⟨least, most⟩ := bounds
  cases most with
  | none => rfl
  | some most =>
      have ordered : least ≤ most := by simpa [isProper] using proper
      have difference := UInt32.toNat_sub_of_le most least ordered
      have below : least.toNat ≤ most.toNat := ordered
      simp only [beyond, allowsMore, Option.map_some, Option.all_some, difference, decide_eq_decide]
      omega

theorem Notation.Bounds.allowsMore_of_lt {bounds : Bounds} (proper : bounds.isProper = true)
    {count : Nat} (asked : count < bounds.least.toNat) : bounds.allowsMore count = true := by
  obtain ⟨least, most⟩ := bounds
  cases most with
  | none => rfl
  | some most =>
      have ordered : least ≤ most := by simpa [isProper] using proper
      have below : least.toNat ≤ most.toNat := ordered
      simpa [allowsMore] using Nat.lt_of_lt_of_le asked below

namespace Finding

@[simp] theorem cursorFrom_after (front : Forest) (finding : Finding) (start : Nat) :
    (finding.after front).cursorFrom start = finding.cursorFrom start := by
  cases finding <;> rfl

theorem ofCount_beyond (bounds : Bounds) (count cursor : Nat) :
    ofCount bounds.beyond count cursor = .matched cursor .nil :=
  if_pos (Nat.zero_le count)

theorem Agrees.refl (finding : Finding) : finding.Agrees finding := ⟨rfl, fun _ => rfl⟩

theorem Agrees.after {left right : Finding} (agrees : left.Agrees right) (front behind : Forest) :
    (left.after front).Agrees (right.after behind) := by
  simpa [Agrees] using agrees

end Finding

theorem Forest.append_nil (forest : Forest) : forest.append .nil = forest := by
  induction forest with
  | nil => rfl
  | token id start rest ih => rw [append, ih]
  | rule id start stop inner rest _ ih => rw [append, ih]

section Finds

variable {table : RuleTable} {watch : Watch} {lexemes : Array Lexeme} {bounds : Bounds}
  {body : Matcher}

theorem Finds.beyond (proper : bounds.isProper = true) {extra cursor : Nat} {finding : Finding}
    (found : Finds table watch lexemes (.rounds bounds body (bounds.least.toNat + extra)) cursor
      finding) :
    Finds table watch lexemes (.rounds bounds.beyond body extra) cursor finding := by
  have enough : ∀ extra cursor, Finding.ofCount bounds (bounds.least.toNat + extra) cursor =
      Finding.ofCount bounds.beyond extra cursor := by
    intro extra cursor
    rw [Finding.ofCount, if_pos (Nat.le_add_right _ _), Finding.ofCount_beyond]
  have allowed := bounds.allowsMore_beyond proper
  -- each round adds one to what was counted beyond
  generalize rounds : Task.rounds bounds body (bounds.least.toNat + extra) = task at found
  induction found generalizing extra with
  | roundsFull full =>
      cases rounds
      rw [enough]
      exact roundsFull ((allowed extra).trans full)
  | roundsFail more head =>
      cases rounds
      rw [enough]
      exact roundsFail ((allowed extra).trans more) head
  | roundsEmpty more head =>
      cases rounds
      exact roundsEmpty ((allowed extra).trans more) head
  | roundsNext more head moved _ _ ih =>
      cases rounds
      exact roundsNext ((allowed extra).trans more) head moved (ih rfl)
  | _ => cases rounds

theorem Finds.beyond_idle {cursor : Nat} {forest : Forest}
    (idle : Finds table watch lexemes (.one body) cursor (.matched cursor forest))
    {finding : Finding}
    (found : Finds table watch lexemes (.one (.repeated bounds.beyond body)) cursor finding) :
    ∃ behind, finding = .matched cursor behind := by
  cases found with
  | repeated rounds =>
      cases rounds with
      | roundsFull | roundsFail => exact ⟨_, Finding.ofCount_beyond bounds 0 cursor⟩
      | roundsEmpty => exact ⟨_, rfl⟩
      | roundsNext _ head moved _ =>
          cases idle.unique head
          exact absurd rfl moved

theorem Finds.last {matcher : Matcher} {cursor : Nat} {finding : Finding}
    (found : Finds table watch lexemes (.all [matcher]) cursor finding) :
    Finds table watch lexemes (.one matcher) cursor finding := by
  cases found with
  | allFail head => exact head
  | @allNext _ _ _ next forest _ head tail =>
      cases tail
      simpa [Finding.after, Forest.append_nil] using head

theorem Finds.copies_idle {cursor : Nat} {forest : Forest}
    (idle : Finds table watch lexemes (.one body) cursor (.matched cursor forest))
    (copies : Nat) {finding : Finding}
    (found : Finds table watch lexemes
      (.all (List.replicate copies body ++ [.repeated bounds.beyond body])) cursor finding) :
    ∃ behind, finding = .matched cursor behind := by
  induction copies generalizing finding with
  | zero => exact beyond_idle idle found.last
  | succ copies ih =>
      cases found with
      | allFail head => cases idle.unique head
      | allNext head tail =>
          cases idle.unique head
          obtain ⟨behind, rfl⟩ := ih tail
          exact ⟨_, rfl⟩

inductive Dwells (table : RuleTable) (watch : Watch) (lexemes : Array Lexeme) (bounds : Bounds)
    (body : Matcher) : Nat → Nat → Prop where
  | here {count cursor : Nat} {forest : Forest} (more : bounds.allowsMore count = true)
      (head : Finds table watch lexemes (.one body) cursor (.matched cursor forest)) :
      Dwells table watch lexemes bounds body count cursor
  | later {count cursor next : Nat} {forest : Forest} (more : bounds.allowsMore count = true)
      (head : Finds table watch lexemes (.one body) cursor (.matched next forest))
      (moved : next ≠ cursor) (tail : Dwells table watch lexemes bounds body (count + 1) next) :
      Dwells table watch lexemes bounds body count cursor

/-- The rounds that are left find what as many copies find as are still asked for, with the rounds
beyond, but for the events where one of the rounds takes no lexeme. -/
theorem Finds.agrees_copies (proper : bounds.isProper = true) (copies : Nat)
    {count cursor : Nat} (asked : count + copies = bounds.least.toNat) {one other : Finding}
    (rounds : Finds table watch lexemes (.rounds bounds body count) cursor one)
    (written : Finds table watch lexemes
      (.all (List.replicate copies body ++ [.repeated bounds.beyond body])) cursor other) :
    one.Agrees other ∧ (one = other ∨ Dwells table watch lexemes bounds body count cursor) := by
  induction copies generalizing count cursor one other with
  | zero =>
      rw [show count = bounds.least.toNat + 0 from asked] at rounds
      cases written.last with
      | repeated rest =>
          cases (rounds.beyond proper).unique rest
          exact ⟨.refl one, .inl rfl⟩
  | succ copies ih =>
      have few : count < bounds.least.toNat := by omega
      have more := Notation.Bounds.allowsMore_of_lt proper few
      cases rounds with
      | roundsFull full => simp [full] at more
      | roundsFail _ head =>
          cases written with
          | allFail =>
              have failed : Finding.ofCount bounds count cursor = .failed :=
                if_neg (Nat.not_le.mpr few)
              rw [failed]
              exact ⟨.refl _, .inl rfl⟩
          | allNext begun _ => cases head.unique begun
      | roundsEmpty _ head =>
          cases written with
          | allFail begun => cases head.unique begun
          | allNext begun behind =>
              cases head.unique begun
              obtain ⟨added, rfl⟩ := copies_idle head copies behind
              exact ⟨⟨rfl, fun _ => rfl⟩, .inr (.here more head)⟩
      | roundsNext _ head moved tail =>
          cases written with
          | allFail begun => cases head.unique begun
          | allNext begun behind =>
              cases head.unique begun
              obtain ⟨agrees, same⟩ := ih (by omega) tail behind
              refine ⟨agrees.after _ _, ?_⟩
              rcases same with rfl | dwells
              · exact .inl rfl
              · exact .inr (.later more head moved dwells)

end Finds

namespace Recognizer

variable {r : Recognizer} {run : Matcher → Progress → Outcome} {bounds : Bounds} {body : Matcher}

theorem verdict_undone (place : Bookmark) (outcome : Outcome) :
    (outcome.undone place).verdict = outcome.verdict := by
  obtain ⟨verdict, after⟩ := outcome
  cases verdict <;> rfl

theorem Sound.matched (sound : r.Sound run) {matcher : Matcher} {before : Progress} {next : Nat}
    {forest : Forest} (found : r.Finds (.one matcher) before.cursor (.matched next forest))
    (decided : ∀ why, (run matcher before).verdict ≠ .stopped why) :
    ∃ after, run matcher before = ⟨.matched, after⟩ ∧ after.cursor = next := by
  have backed := sound matcher before
  rcases ran : run matcher before with ⟨verdict, after⟩
  rw [ran] at backed decided
  cases verdict with
  | matched =>
      obtain ⟨_, reached, -⟩ := backed
      cases reached.unique found
      exact ⟨after, rfl, rfl⟩
  | failed => cases Finds.unique backed found
  | stopped why => exact absurd rfl (decided why)

theorem round_decided {count rounds : Nat} {before : Progress}
    (more : bounds.allowsMore count = true)
    (decided : ∀ why,
      (repeatFrom run bounds body (rounds + 1) count before).verdict ≠ .stopped why) :
    ∀ why, (run body before).verdict ≠ .stopped why := by
  intro why given
  rw [repeatFrom, if_pos more] at decided
  rcases ran : run body before with ⟨verdict, after⟩
  rw [ran] at decided given
  cases given
  exact decided why rfl

/-- If a repetition comes to a verdict although a round takes no lexeme, that round was made. -/
theorem exists_idle (sound : r.Sound run) {count cursor : Nat}
    (dwells : Dwells r.table r.watch r.lexemes bounds body count cursor) (rounds : Nat)
    {before : Progress} (here : before.cursor = cursor)
    (decided : ∀ why, (repeatFrom run bounds body rounds count before).verdict ≠ .stopped why) :
    ∃ trial ∈ roundTrials run bounds body rounds count before, trial.Idle := by
  induction dwells generalizing rounds before with
  | here more head =>
      cases rounds with
      | zero => exact absurd rfl (decided _)
      | succ rounds =>
          subst here
          obtain ⟨after, ran, stays⟩ := sound.matched head (round_decided more decided)
          rw [roundTrials, if_pos more]
          refine ⟨_, List.mem_cons_self, ?_⟩
          rw [trial, ran]
          exact ⟨rfl, stays⟩
  | @later count _ next _ more head moved _ ih =>
      cases rounds with
      | zero => exact absurd rfl (decided _)
      | succ rounds =>
          subst here
          obtain ⟨after, ran, further⟩ := sound.matched head (round_decided more decided)
          rw [repeatFrom, if_pos more, ran] at decided
          rw [roundTrials, if_pos more, ran]
          dsimp only at decided ⊢
          by_cases full : UInt32.size ≤ count + 1
          · rw [if_pos full] at decided
            exact absurd rfl (decided _)
          · have onward : after.cursor ≠ before.cursor := further ▸ moved
            rw [if_neg full, if_neg onward] at decided
            rw [if_neg (not_or.mpr ⟨full, onward⟩)]
            obtain ⟨idle, member, still⟩ := ih rounds further decided
            exact ⟨idle, List.mem_cons_of_mem _ member, still⟩

theorem exists_idle_round {before : Progress}
    (dwells : Dwells r.table r.watch r.lexemes bounds body 0 before.cursor)
    (decided : ∀ why, (r.attempt (.repeated bounds body) before).verdict ≠ .stopped why) :
    ∃ trial ∈ r.stages (.repeated bounds body) before, trial.Idle := by
  unfold attempt at decided
  unfold stages
  cases paid : before.fuel with
  | zero =>
      rw [paid] at decided
      exact absurd rfl (decided _)
  | succ fuel =>
      have spent : ({ before with fuel := fuel } : Progress).cursor = before.cursor := rfl
      apply exists_idle (tryWithin_sound fuel) dwells (fuel + 1) spent
      intro why given
      rw [paid, tryWithin, step, paid] at decided
      apply decided why
      rw [← given]
      exact verdict_undone _ _

/-- A repetition that takes the first round without a lexeme for the last one is the repetition
written out. From any state, if both come to a verdict then it is the same one, at the same
cursor; and if no round that the repetition made has matched without taking a lexeme, the same
events are recorded. -/
theorem attempt_unrolled (r : Recognizer) (bounds : Bounds) (body : Matcher)
    (proper : bounds.isProper = true) (before : Progress)
    (decided : ∀ why, (r.attempt (.repeated bounds body) before).verdict ≠ .stopped why)
    (decidedToo : ∀ why, (r.attempt (.unrolled bounds body) before).verdict ≠ .stopped why) :
    let one := r.attempt (.repeated bounds body) before
    let other := r.attempt (.unrolled bounds body) before
    one.verdict = other.verdict ∧ one.state.cursor = other.state.cursor ∧
      ((∀ trial ∈ r.stages (.repeated bounds body) before, ¬ trial.Idle) →
        one.state.trail = other.state.trail) := by
  intro one other
  obtain ⟨found, rounds, verdict, cursor, trail⟩ := attempt_reports r _ before decided
  obtain ⟨foundToo, written, verdictToo, cursorToo, trailToo⟩ :=
    attempt_reports r _ before decidedToo
  cases rounds with
  | repeated rounds =>
      cases written with
      | sequence written =>
          obtain ⟨agrees, same⟩ :=
            rounds.agrees_copies proper bounds.least.toNat (Nat.zero_add _) written
          refine ⟨?_, ?_, fun busy => ?_⟩
          · exact verdict.trans (agrees.1.trans verdictToo.symm)
          · exact cursor.trans ((agrees.2 before.cursor).trans cursorToo.symm)
          · rcases same with rfl | dwells
            · exact trail.trans trailToo.symm
            · obtain ⟨trial, member, idle⟩ := exists_idle_round dwells decided
              exact absurd idle (busy trial member)

/-- Three lists where there is one lexeme for them: the second list is empty and stands for the
third as well. Where they are written out, two more empty lists are watched. A single list takes
the lexeme, and what is watched is the same. -/
theorem attempt_unrolled_listing :
    let before : Progress := ⟨1, .empty, 20, 0, none⟩
    let list : Matcher := .rule ⟨1⟩
    (listing.attempt (.repeated ⟨3, none⟩ list) before).verdict =
        (listing.attempt (.unrolled ⟨3, none⟩ list) before).verdict ∧
      (listing.attempt (.repeated ⟨3, none⟩ list) before).state.trail.size = 3 ∧
      (listing.attempt (.unrolled ⟨3, none⟩ list) before).state.trail.size = 5 ∧
      (listing.attempt (.repeated ⟨1, some 1⟩ list) before).state.trail =
        (listing.attempt (.unrolled ⟨1, some 1⟩ list) before).state.trail := by
  intro before list
  have decided : ∀ {outcome : Outcome}, outcome.verdict = .matched →
      ∀ why, outcome.verdict ≠ .stopped why := by
    intro outcome matched why
    simp [matched]
  obtain ⟨verdict, -, -⟩ := attempt_unrolled listing ⟨3, none⟩ list rfl before
    (decided (by decide +kernel)) (decided (by decide +kernel))
  obtain ⟨-, -, recorded⟩ := attempt_unrolled listing ⟨1, some 1⟩ list rfl before
    (decided (by decide +kernel)) (decided (by decide +kernel))
  have busy : ∀ trial ∈ listing.stages (.repeated ⟨1, some 1⟩ list) before, ¬ trial.Idle := by
    decide +kernel
  exact ⟨verdict, by decide +kernel, by decide +kernel, recorded busy⟩

end Recognizer

end TextGrammar
