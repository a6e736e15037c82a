import Mathlib
import TextGrammar.Grammar.Parse
import TextGrammar.Proofs.Replay.Nesting

/-!
Where a rule is left. Of what was matched inside a rule, everything that begins in front of
the rule's end is called for before the rule is left. A rule inside it that begins at its
end, and so covers nothing, is called for only after it has been left.
-/

namespace TextGrammar

structure Opening.Listed (all : List Event) (slot : Nat) (opening : Opening) : Prop where
  before : opening.slot < slot
  here : all[opening.slot]? = some opening.rule.event
  isRule : ∃ id, opening.rule.event.subject = .rule id
  closed : opening.rule.event.stop = some opening.rule.stop

namespace Opening.Listed

variable {all : List Event} {slot later : Nat} {opening other : Opening}

theorem mono (listed : opening.Listed all slot) (onward : slot ≤ later) :
    opening.Listed all later :=
  { listed with before := Nat.lt_of_lt_of_le listed.before onward }

theorem stop_eq (listed : opening.Listed all slot) (known : other.Listed all later)
    (same : opening.slot = other.slot) : opening.rule.stop = other.rule.stop := by
  have here := listed.here
  rw [same, known.here, Option.some.injEq] at here
  rw [← Option.some.injEq, ← listed.closed, ← known.closed, here]

end Opening.Listed

namespace Forest

theorem lineages_listed {all : List Event} (forest : Forest) (above : List Opening) (slot : Nat)
    (rest : List Event) (placed : all.drop slot = forest.events ++ rest)
    (known : ∀ opening ∈ above, opening.Listed all slot) :
    ∀ (index : Nat) (line : List Opening), (forest.lineages above slot)[index]? = some line →
      ∀ opening ∈ line, opening.Listed all (slot + index) := by
  induction forest generalizing above slot rest with
  | nil =>
      intro index line found
      cases found
  | token id start tail ih =>
      intro index line found opening member
      cases index with
      | zero =>
          cases found
          exact known opening member
      | succ index =>
          have onward : all.drop (slot + 1) = tail.events ++ rest := by
            rw [← List.tail_drop, placed]
            rfl
          have later := ih above (slot + 1) rest onward (fun outer there =>
            (known outer there).mono (Nat.le_succ slot)) index line found opening member
          exact later.mono (by omega)
  | rule id start stop inner tail ihInner ihTail =>
      intro index line found opening member
      cases index with
      | zero =>
          cases found
          exact known opening member
      | succ index =>
          have inside : all.drop (slot + 1) = inner.events ++ (tail.events ++ rest) := by
            rw [← List.tail_drop, placed]
            simp [events]
          have beyond : all.drop (slot + 1 + inner.events.length) = tail.events ++ rest := by
            rw [← List.drop_drop, inside, List.drop_left]
          have here : all[slot]? = some ⟨.rule id, start, some stop⟩ := by
            rw [← List.head?_drop, placed]
            rfl
          -- the rule is around what is inside it, and around nothing behind it
          rw [lineages, List.getElem?_cons_succ, List.getElem?_append] at found
          split at found
          · have later := ihInner _ (slot + 1) _ inside ?_ index line found opening member
            · exact later.mono (by omega)
            · intro outer there
              rcases List.mem_cons.mp there with same | older
              · subst outer
                exact ⟨Nat.lt_succ_self slot, here, ⟨id, rfl⟩, rfl⟩
              · exact (known outer older).mono (Nat.le_succ slot)
          · next past =>
              rw [length_lineages] at past found
              have later := ihTail above _ rest beyond (fun outer there =>
                (known outer there).mono (by omega)) _ line found opening member
              exact later.mono (by omega)

/-- What is listed in front of an event begins before any call for the event. -/
theorem Performs.begun_before {forest : Forest} {cues front back : List Cue} {cue : Cue}
    (performs : forest.Performs cues) (parts : cues = front ++ cue :: back) {earlier : Nat}
    {event : Event} (listed : forest.events[earlier]? = some event)
    (before : earlier < cue.slot) : event.cue earlier ∈ front := by
  have begins : ∀ {front back : List Cue} {cue : Cue}, cues = front ++ cue :: back →
      cue.isLeave = false → earlier < cue.slot → event.cue earlier ∈ front := by
    intro front back cue parts opens before
    have begun := performs.begun
    have increasing : ((cues.filter (!·.isLeave)).map Cue.slot).Pairwise (· < ·) := by
      rw [begun, slots_begun]
      exact List.pairwise_lt_range'
    have member : event.cue earlier ∈ cues.filter (!·.isLeave) := by
      rw [begun, List.mem_map]
      exact ⟨(event, earlier), List.mem_zipIdx_iff_getElem?.mpr listed, rfl⟩
    rw [parts, List.filter_append, List.filter_cons_of_pos (by simp [opens])] at increasing member
    rcases List.mem_append.mp member with inFront | behind
    · exact (List.mem_filter.mp inFront).1
    · -- what comes from here on has this slot or a later one
      rw [List.map_append, List.map_cons, List.pairwise_append, List.pairwise_cons] at increasing
      exfalso
      rcases List.mem_cons.mp behind with same | later
      · rw [← same, slot_cue] at before
        omega
      · have ahead := increasing.2.1.1 _ (List.mem_map_of_mem later)
        rw [slot_cue] at ahead
        omega
  cases cue with
  | enter slot => exact begins parts rfl before
  | token slot => exact begins parts rfl before
  | leave slot =>
      -- the rule was entered in front of that, and what is listed before it earlier still
      obtain ⟨first, between, split⟩ := List.append_of_mem (performs.paired front slot back parts)
      have sooner : cues = first ++ .enter slot :: (between ++ .leave slot :: back) := by
        rw [parts, split, List.append_assoc, List.cons_append]
      have entered : event.cue earlier ∈ first := begins sooner rfl before
      rw [split]
      exact List.mem_append_left _ entered

end Forest

namespace Recognizer

variable {r : Recognizer} {id : RuleId} {journal : Option (Array Step)} {after : Progress}

/-- In the replay of an accepted run, every call for an event comes after all the rules that
it was matched in have been entered. Those that end behind its start are left after the call,
and those that end where it begins, in front of it. -/
theorem run_leaves (accepted : r.run id journal = ⟨.matched, after⟩) :
    ∃ forest, r.Finds (.one (.rule id)) 0 (.matched after.cursor forest) ∧
      after.trail.cues.map (·.call? forest.events r.lexemes) =
        (after.trail.replay r.lexemes).calls.map some ∧
      ∀ front cue back, after.trail.cues = front ++ cue :: back → ∃ event line,
        forest.events[cue.slot]? = some event ∧
        (forest.lineages [] 0)[cue.slot]? = some line ∧
        ∀ opening ∈ line, .enter opening.slot ∈ front ∧
          (event.start < opening.rule.stop ∧ .leave opening.slot ∈ back ∨
            event.start = opening.rule.stop ∧ .leave opening.slot ∈ front) := by
  obtain ⟨forest, found, listed⟩ := run_finds accepted
  have calls := (run_cues accepted).2
  have spans : forest.Spans 0 after.cursor := found.faithful.spans
  have performs : forest.Performs after.trail.cues := by
    rw [Trail.cues, listed]
    exact spans.performs
  rw [listed] at calls
  refine ⟨forest, found, calls, ?_⟩
  intro front cue back parts
  obtain ⟨event, line, listed, inside, nested, -⟩ := performs.nested front cue back parts
  refine ⟨event, line, listed, inside, ?_⟩
  intro opening member
  have placed : forest.events.drop 0 = forest.events ++ [] := by simp
  have known := forest.lineages_listed [] 0 [] placed (by simp) cue.slot line inside
  rw [Nat.zero_add] at known
  have here := known opening member
  obtain ⟨rule, subject⟩ := here.isRule
  have entered : .enter opening.slot ∈ front := by
    have opened := performs.begun_before parts here.here here.before
    rwa [Event.cue, subject] at opened
  refine ⟨entered, ?_⟩
  have paired : (event, line) ∈ forest.events.zip (forest.lineages [] 0) :=
    List.mem_of_getElem? (List.getElem?_zip_eq_some.mpr ⟨listed, inside⟩)
  have within := spans.within_lineage 0 [] (by simp) event line paired opening member
  rcases Nat.lt_or_eq_of_le within.le_stop with inner | last
  · exact .inl ⟨inner, ((nested opening.slot).mpr ⟨opening, member, rfl, inner⟩).2⟩
  · refine .inr ⟨last, ?_⟩
    have left : .leave opening.slot ∈ after.trail.cues := by
      rw [← List.count_pos_iff, performs.left, List.count_pos_iff, parts]
      exact List.mem_append_left _ entered
    rw [parts] at left
    rcases List.mem_append.mp left with inFront | behind
    · exact inFront
    · exfalso
      rcases List.mem_cons.mp behind with same | inBack
      · exact absurd (congrArg Cue.slot same) (Nat.ne_of_lt here.before)
      · -- it would be around the call, which only those are that end behind the event's start
        obtain ⟨other, there, same, inner⟩ := (nested opening.slot).mp ⟨entered, inBack⟩
        rw [(known other there).stop_eq here same, last] at inner
        exact Nat.lt_irrefl _ inner

theorem run_leaves_listing :
    ∃ forest, listing.Finds (.one (.rule ⟨0⟩)) 0 (.matched 2 forest) ∧
      ∀ front cue back, (listing.run ⟨0⟩ none).state.trail.cues = front ++ cue :: back →
        ∃ event line, forest.events[cue.slot]? = some event ∧
          (forest.lineages [] 0)[cue.slot]? = some line ∧
          ∀ opening ∈ line, .enter opening.slot ∈ front ∧
            (event.start < opening.rule.stop ∧ .leave opening.slot ∈ back ∨
              event.start = opening.rule.stop ∧ .leave opening.slot ∈ front) := by
  have accepted : listing.run ⟨0⟩ none = ⟨.matched, (listing.run ⟨0⟩ none).state⟩ := by
    decide +kernel
  have cursor : (listing.run ⟨0⟩ none).state.cursor = 2 := by decide +kernel
  obtain ⟨forest, found, -, leaves⟩ := run_leaves accepted
  exact ⟨forest, cursor ▸ found, leaves⟩

end Recognizer

/-- A list of one token that ends in an optional one, with hooks that log when they are
called. -/
def trailing : Declaration (List (Visit × Event)) where
  tokens := [("A", "a"), ("B", "b")]
  rules := [("list", "A tail"), ("tail", "B?")]
  ignore := []
  ruleHooks := [("list", logged), ("tail", logged)]
  tokenHooks := []
  limits := ⟨100, 10⟩
where
  logged : RuleHook (List (Visit × Event)) := fun side event log => log ++ [(side, event)]

/-- The tail is matched inside the list, but the list is left before the tail is entered. -/
theorem Grammar.parse_leaves_list_first :
    ∃ grammar lexemes, trailing.build .plain = .ok grammar ∧ grammar.tokenize "a" = .ok lexemes ∧
      Finds grammar.table grammar.watch lexemes.toArray (.one (.rule ⟨0⟩)) 0
        (.matched 1 (.rule ⟨0⟩ 0 1 (.rule ⟨1⟩ 1 1 .nil .nil) .nil)) ∧
      grammar.parse "a" none [] = (.ok ⟨true, 1, 1⟩,
        [(.enter, ⟨.rule ⟨0⟩, 0, some 1⟩), (.leave, ⟨.rule ⟨0⟩, 0, some 1⟩),
          (.enter, ⟨.rule ⟨1⟩, 1, some 1⟩), (.leave, ⟨.rule ⟨1⟩, 1, some 1⟩)]) := by
  obtain ⟨grammar, lexeme, builds, cut, calls, first, watched, list, tail⟩ :
      ∃ grammar lexeme, trailing.build .plain = .ok grammar ∧ grammar.tokenize "a" = .ok [lexeme] ∧
        grammar.parse "a" none [] = (.ok ⟨true, 1, 1⟩,
          [(.enter, ⟨.rule ⟨0⟩, 0, some 1⟩), (.leave, ⟨.rule ⟨0⟩, 0, some 1⟩),
            (.enter, ⟨.rule ⟨1⟩, 1, some 1⟩), (.leave, ⟨.rule ⟨1⟩, 1, some 1⟩)]) ∧
        lexeme.id = ⟨0⟩ ∧ grammar.watch = ⟨#[true, true], #[]⟩ ∧
        (grammar.table.rule? ⟨0⟩).map (·.matcher) = some (.sequence [.token ⟨0⟩, .rule ⟨1⟩]) ∧
        (grammar.table.rule? ⟨1⟩).map (·.matcher) = some (.repeated ⟨0, some 1⟩ (.token ⟨1⟩)) :=
    ⟨_, _, by cbv, by cbv, by cbv, by cbv, by cbv, by cbv, by cbv⟩
  refine ⟨grammar, [lexeme], builds, cut, ?_, calls⟩
  obtain ⟨listRule, listDeclared, listBody⟩ := Option.map_eq_some_iff.mp list
  obtain ⟨tailRule, tailDeclared, tailBody⟩ := Option.map_eq_some_iff.mp tail
  have none : Finds grammar.table grammar.watch [lexeme].toArray (.one (.token ⟨1⟩)) 1 .failed :=
    .tokenOther (by simp)
  have empty : Finds grammar.table grammar.watch [lexeme].toArray (.one tailRule.matcher) 1
      (.matched 1 .nil) := tailBody ▸ .repeated (.roundsFail rfl none)
  have token : Finds grammar.table grammar.watch [lexeme].toArray (.one (.token ⟨0⟩)) 0 _ :=
    .token rfl first
  have parts := Finds.sequence (.allNext token (.allNext (.rule tailDeclared empty) .allDone))
  rw [← listBody] at parts
  have whole := Finds.rule listDeclared parts
  rw [watched] at whole ⊢
  exact whole

end TextGrammar
