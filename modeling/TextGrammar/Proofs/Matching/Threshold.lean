import TextGrammar.Proofs.Matching.Adequacy
import TextGrammar.Proofs.Matching.Restriction

/-!
What limits have to do with a match. A matcher that comes to a verdict at a cursor under some
limits has a threshold there, so much fuel and so many rules inside one another. With as much
left every attempt comes to that verdict, and with less none does. What was recorded before, how
deep the attempt begins and what the limits are beyond the threshold makes no difference.
-/

namespace TextGrammar

namespace Recognizer

variable {r : Recognizer} {verdict : Verdict} {need reach : Nat} {matcher : Matcher}
  {before : Progress} {outcome : Outcome} {finding : Finding}

theorem Priced.affords_iff (priced : r.Priced verdict need reach before outcome)
    (decided : ∀ why, verdict ≠ .stopped why) :
    r.Affords need reach before ↔ ∀ why, outcome.verdict ≠ .stopped why := by
  constructor
  · intro afford why
    rw [(priced.paid afford).1]
    exact decided why
  · intro settled
    by_contra short
    rcases priced.unpaid short with stopped | stopped
    · exact settled _ stopped
    · exact settled _ stopped

theorem attempt_reports_of_finds (found : r.Finds (.one matcher) before.cursor finding)
    (decided : ∀ why, (r.attempt matcher before).verdict ≠ .stopped why) :
    (r.attempt matcher before).Reports before finding := by
  obtain ⟨reported, reached, reports⟩ := attempt_reports r matcher before decided
  rwa [reached.unique found] at reports

/-- Whether attempts of a matcher at a cursor come to a finding exactly where there is fuel and
depth enough left, and spend so much fuel on it. -/
def Threshold (r : Recognizer) (matcher : Matcher) (cursor need reach : Nat)
    (finding : Finding) : Prop :=
  ∀ limits before, before.cursor = cursor → before.fuel < UInt32.size →
    let outcome := { r with limits := limits }.attempt matcher before
    (need ≤ before.fuel ∧ reach ≤ limits.depth.toNat - before.depth ↔
      outcome.Reports before finding ∧ outcome.state.fuel + need = before.fuel) ∧
    (¬(need ≤ before.fuel ∧ reach ≤ limits.depth.toNat - before.depth) →
      outcome.verdict = .stopped .fuelExhausted ∨ outcome.verdict = .stopped .depthExceeded)

variable {cursor : Nat}

theorem Threshold.of_prices (found : r.Finds (.one matcher) cursor finding)
    (closed : r.table.Closed) (within : matcher.Within r.table)
    (priced : ∀ limits,
      { r with limits := limits }.Prices finding.verdict need reach cursor (.one matcher)) :
    r.Threshold matcher cursor need reach finding := by
  intro limits before here small outcome
  have verdict : ∀ why, finding.verdict ≠ .stopped why := by
    cases finding <;> simp [Finding.verdict]
  have ready : { r with limits := limits }.Ready (.one matcher) cursor before.fuel before :=
    ⟨here, Nat.le_refl _, small, fun _ => ⟨closed, within⟩⟩
  have price : { r with limits := limits }.Priced finding.verdict need reach before outcome :=
    (priced limits).2 before.fuel before ready
  refine ⟨?_, price.unpaid⟩
  constructor
  · intro afford
    -- the price says what the verdict is and what is spent, the finding all the rest
    have reports : outcome.Reports before finding :=
      attempt_reports_of_finds (here ▸ found) ((price.affords_iff verdict).mp afford)
    exact ⟨reports, (price.paid afford).2⟩
  · rintro ⟨reports, -⟩
    apply (price.affords_iff verdict).mpr
    rw [reports.1]
    exact verdict

theorem Threshold.settled_iff (threshold : r.Threshold matcher cursor need reach finding)
    (limits : Limits) (before : Progress) (here : before.cursor = cursor)
    (small : before.fuel < UInt32.size) :
    (∀ why, ({ r with limits := limits }.attempt matcher before).verdict ≠ .stopped why) ↔
      need ≤ before.fuel ∧ reach ≤ limits.depth.toNat - before.depth := by
  obtain ⟨exact, short⟩ := threshold limits before here small
  constructor
  · intro settled
    by_contra unpaid
    rcases short unpaid with stopped | stopped
    · exact settled _ stopped
    · exact settled _ stopped
  · intro afford why
    rw [(exact.mp afford).1.1]
    cases finding <;> simp [Finding.verdict]

/-- With the rules of a table made from names and bodies, a matcher that comes to a verdict at
a cursor under some limits has one threshold there, whatever was recorded before, how much fuel
is left, how deep the attempt begins and how deep it may go. So with more fuel and depth than
an attempt needed every other one comes to the same. -/
theorem attempt_threshold (r : Recognizer) {lexicon : Lexicon} {rules : List (String × String)}
    (made : RuleTable.ofRules lexicon rules = .ok r.table) (matcher : Matcher)
    (within : matcher.Within r.table) (cursor : Nat)
    (decided : ∃ limits start, start.cursor = cursor ∧
      ∀ why, ({ r with limits := limits }.attempt matcher start).verdict ≠ .stopped why) :
    ∃ need reach finding, 0 < need ∧ r.Threshold matcher cursor need reach finding ∧
      ∀ limits wider before richer, before.cursor = cursor → richer.cursor = cursor →
        before.fuel ≤ richer.fuel → richer.fuel < UInt32.size →
        limits.depth.toNat - before.depth ≤ wider.depth.toNat - richer.depth →
        (∀ why, ({ r with limits := limits }.attempt matcher before).verdict ≠ .stopped why) →
        ({ r with limits := limits }.attempt matcher before).Reports before finding ∧
          ({ r with limits := wider }.attempt matcher richer).Reports richer finding := by
  obtain ⟨limits, start, here, settled⟩ := decided
  obtain ⟨finding, found, -⟩ := attempt_reports _ matcher start settled
  rw [here] at found
  -- what was found says nothing of limits, and what it costs is the threshold
  obtain ⟨need, reach, priced⟩ := found.priced
  have threshold : r.Threshold matcher cursor need reach finding :=
    .of_prices found (RuleTable.ofRules_closed made) within priced
  refine ⟨need, reach, finding, (priced limits).1, threshold, ?_⟩
  intro limits wider before richer here there fuel small room settled
  have less := Nat.lt_of_le_of_lt fuel small
  have afford := (threshold.settled_iff limits before here less).mp settled
  constructor
  · exact ((threshold limits before here less).1.mp afford).1
  · apply ((threshold wider richer there small).1.mp ?_).1
    exact ⟨Nat.le_trans afford.1 fuel, Nat.le_trans afford.2 room⟩

/-- Two lists with another lexeme between them cost eleven units of fuel and two rules inside
one another, no more and no less. -/
theorem attempt_threshold_lists :
    let r : Recognizer := ⟨lists, .all lists, ⟨11, 2⟩, lexemesOf [⟨1⟩, ⟨0⟩, ⟨1⟩]⟩
    RuleTable.ofRules lists.lexicon [("pair", "list A list"), ("list", "B+")] = .ok lists ∧
      ∃ finding, r.Threshold (.rule ⟨0⟩) 0 11 2 finding ∧ finding.verdict = .matched := by
  intro r
  have made : RuleTable.ofRules lists.lexicon [("pair", "list A list"), ("list", "B+")] =
      .ok lists := by cbv
  -- a unit of fuel less is too little, and so is a rule less
  have matched : (r.attempt (.rule ⟨0⟩) (.start ⟨11, 2⟩ none)).verdict = .matched := by
    decide +kernel
  have poor : (r.attempt (.rule ⟨0⟩) (.start ⟨10, 2⟩ none)).verdict =
      .stopped .fuelExhausted := by decide +kernel
  have shallow : ({ r with limits := ⟨11, 1⟩ }.attempt (.rule ⟨0⟩) (.start ⟨11, 1⟩ none)).verdict =
      .stopped .depthExceeded := by decide +kernel
  have settled : ∀ why, (r.attempt (.rule ⟨0⟩) (.start ⟨11, 2⟩ none)).verdict ≠ .stopped why := by
    simp [matched]
  obtain ⟨need, reach, finding, -, threshold, raised⟩ := attempt_threshold r made (.rule ⟨0⟩)
    ⟨_, rfl⟩ 0 ⟨⟨11, 2⟩, _, rfl, settled⟩
  have enough := (threshold.settled_iff ⟨11, 2⟩ (.start ⟨11, 2⟩ none) rfl (by decide)).mp settled
  have more : ¬(need ≤ 10 ∧ reach ≤ 2) := fun afford =>
    (threshold.settled_iff ⟨11, 2⟩ (.start ⟨10, 2⟩ none) rfl (by decide)).mpr afford _ poor
  have deeper : ¬(need ≤ 11 ∧ reach ≤ 1) := fun afford =>
    (threshold.settled_iff ⟨11, 1⟩ (.start ⟨11, 1⟩ none) rfl (by decide)).mpr afford _ shallow
  obtain ⟨fuel, depth⟩ : need ≤ 11 ∧ reach ≤ 2 := enough
  obtain rfl : need = 11 := by omega
  obtain rfl : reach = 2 := by omega
  have reports := (raised ⟨11, 2⟩ ⟨11, 2⟩ _ _ rfl rfl (Nat.le_refl _) (by decide)
    (Nat.le_refl _) settled).1
  exact ⟨made, finding, threshold, reports.1.symm.trans matched⟩

end Recognizer

end TextGrammar
