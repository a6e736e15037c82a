import TextGrammar.Proofs.Matching.Unrolling

/-!
Parentheses that make no difference. A sequence inside a sequence, alternatives among alternatives
and a list of one part are each tried on their own and go back on their own, but there is nothing
else to find in them than in the list written flat. So however redundant groups are added or taken
away, inside whatever matchers, a match comes to the same.
-/

namespace TextGrammar

open Notation (Bounds)

/-- Whether two matchers differ only by redundant groups. -/
inductive Matcher.Regroups : Matcher → Matcher → Prop where
  | sequence (front parts back : List Matcher) :
      Regroups (.sequence (front ++ [.sequence parts] ++ back)) (.sequence (front ++ parts ++ back))
  | choice (front alternatives back : List Matcher) :
      Regroups (.choice (front ++ [.choice alternatives] ++ back))
        (.choice (front ++ alternatives ++ back))
  | onePart (part : Matcher) : Regroups (.sequence [part]) part
  | oneAlternative (alternative : Matcher) : Regroups (.choice [alternative]) alternative
  | refl (matcher : Matcher) : Regroups matcher matcher
  | symm {one other : Matcher} (same : Regroups one other) : Regroups other one
  | trans {one between other : Matcher} (first : Regroups one between)
      (second : Regroups between other) : Regroups one other
  | inSequence (front back : List Matcher) {one other : Matcher} (same : Regroups one other) :
      Regroups (.sequence (front ++ [one] ++ back)) (.sequence (front ++ [other] ++ back))
  | inChoice (front back : List Matcher) {one other : Matcher} (same : Regroups one other) :
      Regroups (.choice (front ++ [one] ++ back)) (.choice (front ++ [other] ++ back))
  | inRepeated (bounds : Bounds) {one other : Matcher} (same : Regroups one other) :
      Regroups (.repeated bounds one) (.repeated bounds other)

theorem Forest.append_assoc (left middle right : Forest) :
    (left.append middle).append right = left.append (middle.append right) := by
  induction left with
  | nil => rfl
  | token id start rest ih => simp only [append, ih]
  | rule id start stop inner rest _ ih => simp only [append, ih]

namespace Finding

theorem after_nil (finding : Finding) : finding.after .nil = finding := by
  cases finding <;> rfl

theorem after_after (finding : Finding) (front behind : Forest) :
    (finding.after behind).after front = finding.after (front.append behind) := by
  cases finding with
  | matched cursor forest => simp only [after, Forest.append_assoc]
  | failed => rfl

end Finding

section Finds

variable {table : RuleTable} {watch : Watch} {lexemes : Array Lexeme} {cursor : Nat}
  {finding : Finding}

theorem finds_sequence_iff {parts : List Matcher} :
    Finds table watch lexemes (.one (.sequence parts)) cursor finding ↔
      Finds table watch lexemes (.all parts) cursor finding := by
  constructor
  · intro found
    cases found with
    | sequence found => exact found
  · exact .sequence

theorem finds_choice_iff {alternatives : List Matcher} :
    Finds table watch lexemes (.one (.choice alternatives)) cursor finding ↔
      Finds table watch lexemes (.first alternatives) cursor finding := by
  constructor
  · intro found
    cases found with
    | choice found => exact found
  · exact .choice

theorem finds_all_cons_iff {part : Matcher} {rest : List Matcher} :
    Finds table watch lexemes (.all (part :: rest)) cursor finding ↔
      (Finds table watch lexemes (.one part) cursor .failed ∧ finding = .failed) ∨
      ∃ next front behind, Finds table watch lexemes (.one part) cursor (.matched next front) ∧
        Finds table watch lexemes (.all rest) next behind ∧ finding = behind.after front := by
  constructor
  · intro found
    cases found with
    | allFail head => exact .inl ⟨head, rfl⟩
    | allNext head tail => exact .inr ⟨_, _, _, head, tail, rfl⟩
  · rintro (⟨head, rfl⟩ | ⟨next, front, behind, head, tail, rfl⟩)
    · exact .allFail head
    · exact .allNext head tail

theorem finds_all_append_iff {left right : List Matcher} :
    Finds table watch lexemes (.all (left ++ right)) cursor finding ↔
      (Finds table watch lexemes (.all left) cursor .failed ∧ finding = .failed) ∨
      ∃ next front behind, Finds table watch lexemes (.all left) cursor (.matched next front) ∧
        Finds table watch lexemes (.all right) next behind ∧ finding = behind.after front := by
  induction left generalizing cursor finding with
  | nil =>
      constructor
      · intro found
        exact .inr ⟨cursor, .nil, finding, .allDone, found, finding.after_nil.symm⟩
      · rintro (⟨⟨⟩, _⟩ | ⟨next, front, behind, begun, found, rfl⟩)
        cases begun
        rwa [Finding.after_nil]
  | cons part rest ih =>
      rw [List.cons_append]
      constructor
      · intro found
        rcases finds_all_cons_iff.mp found with ⟨head, rfl⟩ | ⟨_, forest, _, head, tail, rfl⟩
        · exact .inl ⟨.allFail head, rfl⟩
        · rcases ih.mp tail with ⟨failed, rfl⟩ | ⟨next, front, behind, begun, others, rfl⟩
          · exact .inl ⟨.allNext head failed, rfl⟩
          · exact .inr ⟨next, forest.append front, behind, .allNext head begun, others,
              behind.after_after forest front⟩
      · rintro (⟨failed, rfl⟩ | ⟨next, front, behind, begun, found, rfl⟩)
        · rcases finds_all_cons_iff.mp failed with ⟨head, -⟩ | ⟨_, _, inner, head, tail, same⟩
          · exact .allFail head
          · cases inner with
            | matched => cases same
            | failed => exact .allNext head (ih.mpr (.inl ⟨tail, rfl⟩))
        · rcases finds_all_cons_iff.mp begun with ⟨-, ⟨⟩⟩ | ⟨_, _, inner, head, tail, same⟩
          cases inner with
          | failed => cases same
          | matched middle inner =>
              cases same
              rw [← Finding.after_after]
              exact .allNext head (ih.mpr (.inr ⟨next, inner, behind, tail, found, rfl⟩))

theorem finds_all_singleton_iff {part : Matcher} :
    Finds table watch lexemes (.all [part]) cursor finding ↔
      Finds table watch lexemes (.one part) cursor finding := by
  constructor
  · exact Finds.last
  · intro found
    rw [finds_all_cons_iff]
    cases finding with
    | failed => exact .inl ⟨found, rfl⟩
    | matched next forest =>
        refine .inr ⟨next, forest, .matched next .nil, found, .allDone, ?_⟩
        rw [Finding.after, Forest.append_nil]

/-- Alternatives in front are all that counts where one of them matches, and where none does they
count for nothing. -/
theorem finds_first_append_iff {left right : List Matcher} :
    Finds table watch lexemes (.first (left ++ right)) cursor finding ↔
      (Finds table watch lexemes (.first left) cursor finding ∧ finding ≠ .failed) ∨
      (Finds table watch lexemes (.first left) cursor .failed ∧
        Finds table watch lexemes (.first right) cursor finding) := by
  induction left with
  | nil =>
      constructor
      · intro found
        exact .inr ⟨.firstNone, found⟩
      · rintro (⟨none, hit⟩ | ⟨-, found⟩)
        · cases none
          exact absurd rfl hit
        · exact found
  | cons alternative rest ih =>
      rw [List.cons_append]
      constructor
      · intro found
        cases found with
        | firstHit head => exact .inl ⟨.firstHit head, Finding.noConfusion⟩
        | firstNext head tail =>
            rcases ih.mp tail with ⟨found, hit⟩ | ⟨failed, found⟩
            · exact .inl ⟨.firstNext head found, hit⟩
            · exact .inr ⟨.firstNext head failed, found⟩
      · rintro (⟨found, hit⟩ | ⟨failed, found⟩)
        · cases found with
          | firstHit head => exact .firstHit head
          | firstNext head tail => exact .firstNext head (ih.mpr (.inl ⟨tail, hit⟩))
        · cases failed with
          | firstNext head tail => exact .firstNext head (ih.mpr (.inr ⟨tail, found⟩))

theorem finds_first_singleton_iff {alternative : Matcher} :
    Finds table watch lexemes (.first [alternative]) cursor finding ↔
      Finds table watch lexemes (.one alternative) cursor finding := by
  constructor
  · intro found
    cases found with
    | firstHit head => exact head
    | firstNext head tail =>
        cases tail
        exact head
  · intro found
    cases finding with
    | matched next forest => exact .firstHit found
    | failed => exact .firstNext found .firstNone

theorem Finds.repeated_of_same {bounds : Bounds} {one other : Matcher}
    (same : ∀ cursor finding, Finds table watch lexemes (.one one) cursor finding →
      Finds table watch lexemes (.one other) cursor finding)
    (found : Finds table watch lexemes (.one (.repeated bounds one)) cursor finding) :
    Finds table watch lexemes (.one (.repeated bounds other)) cursor finding := by
  cases found with
  | repeated found =>
      apply repeated
      generalize rounds : Task.rounds bounds one 0 = task at found
      generalize 0 = count at rounds ⊢
      induction found generalizing count with
      | roundsFull full =>
          cases rounds
          exact .roundsFull full
      | roundsFail more head =>
          cases rounds
          exact .roundsFail more (same _ _ head)
      | roundsEmpty more head =>
          cases rounds
          exact .roundsEmpty more (same _ _ head)
      | roundsNext more head moved _ _ ih =>
          cases rounds
          exact .roundsNext more (same _ _ head) moved (ih _ rfl)
      | _ => cases rounds

theorem Matcher.Regroups.finds_iff {one other : Matcher} (regroups : one.Regroups other)
    (cursor : Nat) (finding : Finding) :
    Finds table watch lexemes (.one one) cursor finding ↔
      Finds table watch lexemes (.one other) cursor finding := by
  induction regroups generalizing cursor finding with
  | sequence =>
      simp only [finds_sequence_iff, finds_all_append_iff, finds_all_singleton_iff]
  | choice =>
      simp only [finds_choice_iff, finds_first_append_iff, finds_first_singleton_iff]
  | onePart => rw [finds_sequence_iff, finds_all_singleton_iff]
  | oneAlternative => rw [finds_choice_iff, finds_first_singleton_iff]
  | refl => rfl
  | symm _ ih => exact (ih cursor finding).symm
  | trans _ _ first second => exact (first cursor finding).trans (second cursor finding)
  | inSequence _ _ _ ih =>
      simp only [finds_sequence_iff, finds_all_append_iff, finds_all_singleton_iff, ih]
  | inChoice _ _ _ ih =>
      simp only [finds_choice_iff, finds_first_append_iff, finds_first_singleton_iff, ih]
  | inRepeated _ _ ih =>
      constructor
      · exact Finds.repeated_of_same fun cursor finding => (ih cursor finding).mp
      · exact Finds.repeated_of_same fun cursor finding => (ih cursor finding).mpr

end Finds

namespace Recognizer

/-- Redundant groups make no difference to a match. Where two matchers differ only by them, then
from any state, if attempts of both come to a verdict, it is the same one, at the same cursor and
with the same events. -/
theorem attempt_regrouped (r : Recognizer) {one other : Matcher} (regroups : one.Regroups other)
    (before : Progress) (decided : ∀ why, (r.attempt one before).verdict ≠ .stopped why)
    (decidedToo : ∀ why, (r.attempt other before).verdict ≠ .stopped why) :
    (r.attempt one before).verdict = (r.attempt other before).verdict ∧
      (r.attempt one before).state.cursor = (r.attempt other before).state.cursor ∧
      (r.attempt one before).state.trail = (r.attempt other before).state.trail := by
  obtain ⟨finding, found, verdict, cursor, trail⟩ := attempt_reports r one before decided
  obtain ⟨_, reached, verdictToo, cursorToo, trailToo⟩ :=
    attempt_reports r other before decidedToo
  cases ((regroups.finds_iff before.cursor finding).mp found).unique reached
  exact ⟨verdict.trans verdictToo.symm, cursor.trans cursorToo.symm, trail.trans trailToo.symm⟩

/-- A group at the end of the first alternative fails behind a list that was recorded, and the
second one is a group of a group. Written flat, the same five events are left. -/
theorem attempt_regrouped_listing :
    let before : Progress := ⟨0, .empty, 40, 0, none⟩
    let list : Matcher := .rule ⟨1⟩
    let nested : Matcher := .choice
      [.sequence [.token ⟨0⟩, .sequence [list, .token ⟨0⟩]], .choice [.sequence [.rule ⟨0⟩]]]
    let flat : Matcher := .choice [.sequence [.token ⟨0⟩, list, .token ⟨0⟩], .rule ⟨0⟩]
    nested.Regroups flat ∧ (listing.attempt flat before).state.trail.size = 5 ∧
      (listing.attempt nested before).verdict = (listing.attempt flat before).verdict ∧
      (listing.attempt nested before).state.trail = (listing.attempt flat before).state.trail := by
  intro before list nested flat
  have regroups : nested.Regroups flat := by
    apply Matcher.Regroups.trans (.choice [_] [.sequence [.rule ⟨0⟩]] [])
    apply Matcher.Regroups.trans (.inChoice [_] [] (.onePart (.rule ⟨0⟩)))
    exact .inChoice [] [_] (.sequence [.token ⟨0⟩] [list, .token ⟨0⟩] [])
  have matched : (listing.attempt nested before).verdict = .matched := by decide +kernel
  have matchedToo : (listing.attempt flat before).verdict = .matched := by decide +kernel
  obtain ⟨verdict, -, trail⟩ := attempt_regrouped listing regroups before
    (by simp [matched]) (by simp [matchedToo])
  exact ⟨regroups, by decide +kernel, verdict, trail⟩

end Recognizer

end TextGrammar
