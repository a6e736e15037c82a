import TextGrammar.Proofs.Matching.Logbook
import TextGrammar.Proofs.Matching.Relevance

/-!
What a match leaves behind where it is given up. Nothing is tidied up then, so what is unfinished
of it stays on the trail and in the depth. It is no more than the rules that the match was inside
of: each has an open event, in the order in which they were entered, and the depth counts them.
-/

namespace TextGrammar

/-- Whether some rules, the innermost first and each with the cursor at which it was entered, are
all that is unfinished after a match that has left some events. -/
structure Unfinished (before after : Progress) (active : List (RuleId × Nat))
    (events : List Event) : Prop where
  recorded : after.trail = before.trail.record events
  depth : after.depth = before.depth + (events.filter Event.isOpen).length
  opens : events.filter Event.isOpen = active.reverse.map fun entry => .rule entry.1 entry.2
  closed : ∀ event ∈ events, event.ruleId?.isSome = true → event.isOpen = false →
    ∃ last, event.stop = some last ∧ event.start ≤ last ∧ last ≤ after.cursor

namespace Recognizer

variable {r : Recognizer} {base state : Progress} {active : List (RuleId × Nat)}

theorem attempt_noted (closed : r.table.Closed) {matcher : Matcher}
    (within : matcher.Within r.table) (before : Progress) :
    (r.attempt matcher before).state.unobserved =
      (r.attempt matcher { before with journal := some #[] }).state.unobserved := by
  cases noted : before.journal with
  | none =>
      have same : before.unobserved = before := by rw [Progress.unobserved, ← noted]
      rw [← same, attempt_unobserved closed within before]
      rfl
  | some earlier =>
      obtain ⟨after, ran, same, -⟩ := Outcome.alike_iff.mp
        (tryWithin_adds closed before.fuel earlier matcher within _ _ (behind_of_noted noted))
      rw [attempt, ran, same]
      rfl

theorem Consistent.unfinished (consistent : r.Consistent base state active)
    (watched : ∀ id, r.watch.watchesRule id = (r.table.rule? id).isSome) :
    ∃ events, Unfinished base state active events := by
  obtain ⟨events, recorded, opens, ended⟩ := consistent.recorded
  have listed : r.openEvents active = active.reverse.map fun entry => .rule entry.1 entry.2 := by
    unfold openEvents
    congr 1
    apply List.filter_eq_self.mpr
    intro entry member
    rw [watched]
    exact consistent.known entry (List.mem_reverse.mp member)
  rw [listed] at opens
  refine ⟨events, recorded, ?_, opens, ?_⟩
  · rw [opens, List.length_map, List.length_reverse]
    exact consistent.noted.depth
  · intro event member ofRule settled
    cases stop : event.stop with
    | none => simp [Event.isOpen, ofRule, stop] at settled
    | some last => exact ⟨last, rfl, ended event member last stop⟩

/-- Where everything is watched, what an attempt leaves unfinished are exactly the rules that it
has entered and not left, whatever becomes of it. -/
theorem attempt_unfinished {lexicon : Lexicon} {rules : List (String × String)}
    {table : RuleTable} (made : RuleTable.ofRules lexicon rules = .ok table) (limits : Limits)
    (lexemes : Array Lexeme) {matcher : Matcher} (within : matcher.Within table)
    (before : Progress) :
    let r : Recognizer := ⟨table, .all table, limits, lexemes⟩
    let after := (r.attempt matcher before).state
    ∃ steps events,
      (r.attempt matcher { before with journal := some #[] }).state.journal = some steps ∧
      (⟨before.cursor, []⟩ : Reading).Follows steps.toList ∧
      (Reading.read ⟨before.cursor, []⟩ steps.toList).cursor = after.cursor ∧
      Unfinished before after (Reading.read ⟨before.cursor, []⟩ steps.toList).active events := by
  intro r after
  have closed := RuleTable.ofRules_closed made
  obtain ⟨active, consistent, -⟩ := tryWithin_accords (r := r) closed before.fuel matcher within
    _ _ [] (consistent_start r { before with journal := some #[] } rfl)
  rw [List.append_nil] at consistent
  obtain ⟨events, unfinished⟩ := consistent.unfinished (Watch.watchesRule_all table)
  obtain ⟨steps, noted, follows, told⟩ := consistent.noted.told
  have same := attempt_noted (r := r) closed within before
  have cursor := congrArg Progress.cursor same
  have trail := congrArg Progress.trail same
  have depth := congrArg Progress.depth same
  refine ⟨steps, events, noted, follows, ?_, ?_⟩
  · rw [told]
    exact cursor.symm
  · rw [told]
    constructor
    · exact trail.trans unfinished.recorded
    · exact depth.trans unfinished.depth
    · exact unfinished.opens
    · rw [show after.cursor = _ from cursor]
      exact unfinished.closed

/-- The fuel runs out in the second list. The first one has its end, and the pair and the second
list, which are two rules more than were entered before, have none. -/
theorem attempt_unfinished_lists :
    let r : Recognizer := ⟨lists, .all lists, ⟨20, 9⟩, lexemesOf [⟨1⟩, ⟨1⟩, ⟨0⟩, ⟨1⟩, ⟨1⟩]⟩
    let before : Progress := ⟨1, ⟨#[.token ⟨1⟩ 0]⟩, 10, 3, none⟩
    let outcome := r.attempt (.rule ⟨0⟩) before
    RuleTable.ofRules lists.lexicon [("pair", "list A list"), ("list", "B+")] = .ok lists ∧
      (Matcher.rule ⟨0⟩).Within lists ∧
      outcome.verdict = .stopped .fuelExhausted ∧ outcome.state.depth = 5 ∧
      ∃ events, Unfinished before outcome.state [(⟨1⟩, 3), (⟨0⟩, 1)] events := by
  intro r before outcome
  have made : RuleTable.ofRules lists.lexicon [("pair", "list A list"), ("list", "B+")] =
      .ok lists := by cbv
  have within : (Matcher.rule ⟨0⟩).Within lists := ⟨_, rfl⟩
  obtain ⟨steps, events, noted, -, -, unfinished⟩ :=
    attempt_unfinished made ⟨20, 9⟩ r.lexemes within before
  have told : (r.attempt (.rule ⟨0⟩) { before with journal := some #[] }).state.journal.map
      (fun steps => (Reading.read ⟨1, []⟩ steps.toList).active) = some [(⟨1⟩, 3), (⟨0⟩, 1)] := by
    decide +kernel
  rw [noted, Option.map_some, Option.some.injEq] at told
  rw [show (Reading.read ⟨before.cursor, []⟩ steps.toList).active = _ from told] at unfinished
  exact ⟨made, within, by decide +kernel, by decide +kernel, events, unfinished⟩

end Recognizer

end TextGrammar
