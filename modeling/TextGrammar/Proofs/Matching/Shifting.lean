import TextGrammar.Proofs.Matching.Relevance

/-!
The place where a match begins. Positions go into events and bookmarks and are compared with one
another, but what comes of a match does not hang on where they are counted from. Where the lexemes
in front of the cursor are left out, a match from the first one on goes the same way, and all its
positions are less by as many as were left out.
-/

namespace TextGrammar

def Event.shifted (count : Nat) (event : Event) : Event :=
  ⟨event.subject, event.start + count, event.stop.map (· + count)⟩

/-- Whether a state of a match behind a trail goes with a state of the match of what is left when
some lexemes in front are taken away, behind another trail. -/
structure Shifted (count : Nat) (front base : Trail) (one other : Progress) : Prop where
  cursor : one.cursor = other.cursor + count
  fuel : one.fuel = other.fuel
  depth : one.depth = other.depth
  trail : ∃ events, other.trail = base.record events ∧
    one.trail = front.record (events.map (Event.shifted count))

variable {count : Nat} {front base : Trail} {one other after behind : Progress}

theorem Shifted.record (together : Shifted count front base one other) (events : List Event) :
    ∃ all, other.trail.record events = base.record all ∧
      one.trail.record (events.map (Event.shifted count)) =
        front.record (all.map (Event.shifted count)) := by
  obtain ⟨earlier, begun, begunToo⟩ := together.trail
  refine ⟨earlier ++ events, ?_, ?_⟩
  · rw [begun, Trail.record_record]
  · rw [begunToo, Trail.record_record, List.map_append]

theorem Shifted.recorded (together : Shifted count front base one other)
    (kept : Shifted count front base after behind) {events others : List Event}
    (recorded : after.trail = one.trail.record events)
    (recordedToo : behind.trail = other.trail.record others) :
    events = others.map (Event.shifted count) := by
  obtain ⟨earlier, begun, begunToo⟩ := together.trail
  obtain ⟨later, ended, endedToo⟩ := kept.trail
  rw [begun, Trail.record_record, ended] at recordedToo
  rw [begunToo, Trail.record_record, endedToo] at recorded
  have same := Trail.record_inj recorded
  rw [Trail.record_inj recordedToo, List.map_append] at same
  exact (List.append_cancel_left same).symm

namespace Recognizer

variable {r : Recognizer}

theorem lockstep_shifted : Lockstep (Shifted count front base) where
  fuel _ _ together := together.fuel
  spend _ _ _ together := ⟨together.cursor, rfl, together.depth, together.trail⟩
  still left right further onward together kept := by
    rw [kept.cursor, together.cursor]
    exact Nat.add_right_cancel_iff
  back left right further onward together kept precedes precedesToo := by
    obtain ⟨cursor, trail, -⟩ := precedes.backtrack
    obtain ⟨cursorToo, trailToo, -⟩ := precedesToo.backtrack
    constructor
    · rw [cursor, cursorToo, together.cursor]
    · simpa using kept.fuel
    · simpa using kept.depth
    · rw [trail, trailToo]
      exact together.trail

theorem peek?_shifted (together : Shifted count front base one other) :
    (r.reading (r.lexemes.drop count)).peek? other = r.peek? one := by
  rw [peek?, peek?, reading, together.cursor, ← Array.getElem?_toList, Array.toList_drop,
    List.getElem?_drop, Array.getElem?_toList, Nat.add_comm]

theorem events_tokenForest_shifted (watch : Watch) (id : TokenId) (start : Nat) :
    (watch.tokenForest id (start + count)).events =
      (watch.tokenForest id start).events.map (Event.shifted count) := by
  unfold Watch.tokenForest
  split
  · rfl
  · rfl

theorem testToken_shifted {id : TokenId} {name : String}
    (named : r.table.lexicon.name? id = some name)
    (together : Shifted count front base one other) :
    (r.testToken id one).Alike (Shifted count front base) (fun _ => False)
      ((r.reading (r.lexemes.drop count)).testToken id other) := by
  rw [testToken_of_named named,
    testToken_of_named (r := r.reading (r.lexemes.drop count)) named]
  dsimp only
  rw [peek?_shifted together]
  split
  · refine .inr ⟨rfl, ?_, together.fuel, together.depth, ?_⟩
    · rw [together.cursor]
      exact Nat.add_right_comm _ _ _
    · rw [together.cursor, events_tokenForest_shifted]
      exact together.record _
  · exact .inr ⟨rfl, together.cursor, together.fuel, together.depth, together.trail⟩

theorem companions_shifted :
    r.Companions (r.reading (r.lexemes.drop count)) (Shifted count front base)
      fun _ => False where
  lockstep := lockstep_shifted
  table := rfl
  watch := rfl
  room := Nat.le_refl _
  full := .inl rfl
  depth _ _ together := together.depth
  opens id one other together := by
    have opened : [Event.rule id one.cursor] =
        [Event.rule id other.cursor].map (Event.shifted count) := by
      rw [together.cursor]
      rfl
    rw [opened]
    exact ⟨together.cursor, together.fuel, together.depth, together.record _⟩
  closes id one other after behind events others together kept recorded recordedToo := by
    have same := together.recorded kept recorded recordedToo
    rw [List.map_cons] at same
    have closed : ⟨.rule id, one.cursor, some after.cursor⟩ :: events =
        (⟨.rule id, other.cursor, some behind.cursor⟩ :: others).map (Event.shifted count) := by
      rw [(List.cons.inj same).2, together.cursor, kept.cursor]
      rfl
    rw [closed]
    exact ⟨kept.cursor, kept.fuel, kept.depth, together.record _⟩
  enter id rule _ one other together := by
    refine ⟨together.cursor, together.fuel, ?_, together.trail⟩
    exact congrArg Nat.succ together.depth
  leave _ _ _ _ _ _ _ together := ⟨together.cursor, together.fuel, rfl, together.trail⟩
  token _ _ named _ _ together := testToken_shifted named together

/-- A match does not hang on where it begins. At any cursor, also at or beyond the end of the
lexemes, a matcher comes to the verdict that it comes to at the beginning of what is left there,
be it to match, to fail or to be given up for some reason, with the same fuel left, the same depth
and the cursor as much further on. The events that it leaves are the same when the positions in
them are counted from where the lexemes begin. -/
theorem attempt_shifted {lexicon : Lexicon} {rules : List (String × String)}
    (made : RuleTable.ofRules lexicon rules = .ok r.table) {matcher : Matcher}
    (within : matcher.Within r.table) (before : Progress) (trail : Trail)
    (journal : Option (Array Step)) :
    let one := r.attempt matcher before
    let other := (r.reading (r.lexemes.drop before.cursor)).attempt matcher
      ⟨0, trail, before.fuel, before.depth, journal⟩
    one.verdict = other.verdict ∧ one.state.fuel = other.state.fuel ∧
      one.state.depth = other.state.depth ∧
      one.state.cursor = other.state.cursor + before.cursor ∧
      ∃ events, other.state.trail = trail.record events ∧
        one.state.trail = before.trail.record (events.map (Event.shifted before.cursor)) := by
  intro one other
  have closed := RuleTable.ofRules_closed made
  have together : Shifted before.cursor before.trail trail before
      ⟨0, trail, before.fuel, before.depth, journal⟩ :=
    ⟨(Nat.zero_add _).symm, rfl, rfl, [], by simp, by simp⟩
  have alike := (companions_shifted.paired closed).tryWithin before.fuel matcher within _ _ together
  rcases alike with ⟨_, _, ⟨⟩⟩ | ⟨agreed, kept⟩
  exact ⟨agreed, kept.fuel, kept.depth, kept.cursor, kept.trail⟩

/-- A list behind two other tokens, in which the fuel runs out, so that its event is left open. -/
theorem attempt_shifted_lists :
    let r : Recognizer := ⟨lists, .all lists, ⟨9, 2⟩, lexemesOf [⟨0⟩, ⟨0⟩, ⟨1⟩, ⟨1⟩]⟩
    let one := r.attempt (.rule ⟨1⟩) ⟨2, ⟨#[⟨.token ⟨0⟩, 0, none⟩]⟩, 3, 0, none⟩
    let other := (r.reading (lexemesOf [⟨1⟩, ⟨1⟩])).attempt (.rule ⟨1⟩) ⟨0, .empty, 3, 0, none⟩
    one.verdict = .stopped .fuelExhausted ∧ other.verdict = one.verdict ∧
      other.state.trail.events.toList = [⟨.rule ⟨1⟩, 0, none⟩, ⟨.token ⟨1⟩, 0, none⟩] ∧
      one.state.trail.events.toList =
        [⟨.token ⟨0⟩, 0, none⟩, ⟨.rule ⟨1⟩, 2, none⟩, ⟨.token ⟨1⟩, 2, none⟩] := by
  intro r one other
  have made : RuleTable.ofRules lists.lexicon [("pair", "list A list"), ("list", "B+")] =
      .ok lists := by cbv
  have within : (Matcher.rule ⟨1⟩).Within r.table := ⟨_, rfl⟩
  obtain ⟨verdict, -, -, -, events, recorded, shifted⟩ := attempt_shifted made within
    ⟨2, ⟨#[⟨.token ⟨0⟩, 0, none⟩]⟩, 3, 0, none⟩ .empty none
  have left : other.state.trail.events.toList =
      [⟨.rule ⟨1⟩, 0, none⟩, ⟨.token ⟨1⟩, 0, none⟩] := by decide +kernel
  have listed : events = [⟨.rule ⟨1⟩, 0, none⟩, ⟨.token ⟨1⟩, 0, none⟩] := by
    rw [← left]
    rw [show other.state.trail = _ from recorded, Trail.toList_record]
    rfl
  refine ⟨by decide +kernel, verdict.symm, left, ?_⟩
  rw [show one.state.trail = _ from shifted, Trail.toList_record, listed]
  rfl

end Recognizer

end TextGrammar
