import TextGrammar.Proofs.Matching.Record
import TextGrammar.Proofs.Replay.Cue

/-!
How a replay nests the events of an accepted run. The replay has only the list of events
and their ends to go by. It puts the calls of an event inside those of the rules around it,
except for rules that end where the event begins; so whatever covers a lexeme is called for
inside all of the rules it was matched in.
-/

namespace TextGrammar

def Event.covering (event : Event) (line : List Opening) : List Opening :=
  line.filter fun opening => event.start < opening.rule.stop

/-- For each event, in order, the rules that were being matched when it was recorded, the
innermost first. -/
def Forest.lineages (above : List Opening) (slot : Nat) : Forest → List (List Opening)
  | .nil => []
  | .token _ _ rest => above :: rest.lineages above (slot + 1)
  | .rule id start stop inner rest =>
      above :: (inner.lineages (⟨slot, ⟨.rule id, start, some stop⟩, stop⟩ :: above) (slot + 1) ++
        rest.lineages above (slot + 1 + inner.events.length))

theorem Forest.length_lineages (forest : Forest) (above : List Opening) (slot : Nat) :
    (forest.lineages above slot).length = forest.events.length := by
  induction forest generalizing above slot with
  | nil => rfl
  | token id start rest ih => simp [lineages, events, ih]
  | rule id start stop inner rest ihInner ihRest => simp [lineages, events, ihInner, ihRest]

/-- Whether the rules that a replay has open at a place are those of a line, as far as they
end behind it. -/
structure Settled (nest line : List Opening) (place : Nat) : Prop where
  same : nest.filter (fun opening => place < opening.rule.stop) =
    line.filter fun opening => place < opening.rule.stop
  sorted : nest.Pairwise fun inner outer => inner.rule.stop ≤ outer.rule.stop

section Sorted

variable {α : Type} {stop : α → Nat} {nest : List α}

theorem dropWhile_eq_filter (sorted : nest.Pairwise fun inner outer => stop inner ≤ stop outer)
    (place : Nat) :
    nest.dropWhile (fun opening => stop opening ≤ place) =
      nest.filter fun opening => place < stop opening := by
  induction nest with
  | nil => rfl
  | cons opening rest ih =>
      obtain ⟨first, others⟩ := List.pairwise_cons.mp sorted
      by_cases past : stop opening ≤ place
      · rw [List.dropWhile_cons_of_pos (by simpa using past), ih others,
          List.filter_cons_of_neg (by simpa using past)]
      · rw [List.dropWhile_cons_of_neg (by simpa using past), eq_comm, List.filter_eq_self]
        intro outer member
        rcases List.mem_cons.mp member with same | behind
        · simpa [same] using past
        · have := first outer behind
          simp only [decide_eq_true_eq]
          omega

theorem takeWhile_eq_filter (sorted : nest.Pairwise fun inner outer => stop inner ≤ stop outer)
    (place : Nat) :
    nest.takeWhile (fun opening => stop opening ≤ place) =
      nest.filter fun opening => stop opening ≤ place := by
  have none : (nest.filter fun opening => place < stop opening).filter
      (fun opening => stop opening ≤ place) = [] := by
    refine List.filter_eq_nil_iff.mpr fun opening member => ?_
    simpa using (List.mem_filter.mp member).2
  have whole := congrArg (List.filter fun opening => stop opening ≤ place)
    (List.takeWhile_append_dropWhile (p := fun opening => stop opening ≤ place) (l := nest))
  rw [List.filter_append, dropWhile_eq_filter sorted, none, List.append_nil] at whole
  rw [← whole, eq_comm, List.filter_eq_self]
  exact fun opening member => List.all_eq_true.mp List.all_takeWhile opening member

end Sorted

namespace Settled

variable {nest line : List Opening} {place later : Nat}

theorem mono (settled : Settled nest line place) (onward : place ≤ later) :
    Settled nest line later where
  same := by
    have finer : ∀ openings : List Opening,
        openings.filter (fun opening => later < opening.rule.stop) =
          (openings.filter fun opening => place < opening.rule.stop).filter
            fun opening => later < opening.rule.stop := by
      intro openings
      rw [List.filter_filter]
      apply List.filter_congr
      intro opening _
      rw [Bool.eq_iff_iff]
      simp only [Bool.and_eq_true, decide_eq_true_eq]
      omega
    rw [finer nest, finer line, settled.same]
  sorted := settled.sorted

theorem shelter_eq {event : Event} (settled : Settled nest line place)
    (onward : place ≤ event.start) : event.shelter nest = event.covering line := by
  rw [Event.shelter, dropWhile_eq_filter settled.sorted, (settled.mono onward).same]
  rfl

theorem sheltered {event : Event} (settled : Settled nest line place)
    (onward : place ≤ event.start) : Settled (event.shelter nest) line event.start where
  same := by
    rw [settled.shelter_eq onward, Event.covering, List.filter_filter]
    simp only [Bool.and_self]
  sorted := settled.sorted.sublist (List.dropWhile_sublist _)

theorem enter {opening : Opening} (settled : Settled nest line place)
    (inside : ∀ outer ∈ nest, opening.rule.stop ≤ outer.rule.stop) :
    Settled (opening :: nest) (opening :: line) place where
  same := by rw [List.filter_cons, List.filter_cons, settled.same]
  sorted := List.pairwise_cons.mpr ⟨inside, settled.sorted⟩

theorem leave {opening : Opening} (settled : Settled nest (opening :: line) place)
    (past : opening.rule.stop ≤ place) : Settled nest line place where
  same := by
    rw [settled.same, List.filter_cons_of_neg]
    simpa using past
  sorted := settled.sorted

end Settled

namespace Forest

theorem Spans.shelters {forest : Forest} {start stop : Nat} (spans : forest.Spans start stop)
    (slot : Nat) (nest line : List Opening) (settled : Settled nest line start)
    (wide : ∀ opening ∈ line, stop ≤ opening.rule.stop) :
    ∃ behind, Settled behind line stop ∧ ∀ rest, sheltersFrom slot nest (forest.events ++ rest) =
      List.zipWith Event.covering forest.events (forest.lineages line slot) ++
        sheltersFrom (slot + forest.events.length) behind rest := by
  induction forest generalizing start stop slot nest line with
  | nil => exact ⟨nest, settled.mono spans, fun rest => by simp [events, lineages]⟩
  | token id place tail ih =>
      have onward : start ≤ (Event.token id place).start := spans.1
      have kept := (settled.sheltered onward).mono (Nat.le_succ _)
      obtain ⟨behind, last, others⟩ := ih spans.2 (slot + 1) _ line kept wide
      refine ⟨behind, last, fun rest => ?_⟩
      have count : slot + (tail.events.length + 1) = slot + 1 + tail.events.length := by omega
      rw [events, List.cons_append, sheltersFrom, settled.shelter_eq onward, lineages,
        List.zipWith_cons_cons, List.cons_append, List.length_cons, count, ← others rest]
      rfl
  | rule id first last inner tail ihInner ihTail =>
      obtain ⟨before, inside, beyond⟩ := spans
      have onward : start ≤ (⟨.rule id, first, some last⟩ : Event).start := before
      have kept := settled.sheltered onward
      have fits : ∀ outer ∈ Event.shelter ⟨.rule id, first, some last⟩ nest,
          last ≤ outer.rule.stop := by
        intro outer member
        rw [settled.shelter_eq onward] at member
        have := wide outer (List.mem_filter.mp member).1
        have := beyond.le
        omega
      -- inside the rule, its own end is the nearest one
      have around : ∀ outer ∈ (⟨slot, ⟨.rule id, first, some last⟩, last⟩ : Opening) :: line,
          last ≤ outer.rule.stop := by
        intro outer member
        rcases List.mem_cons.mp member with same | older
        · subst outer
          exact Nat.le_refl last
        · exact Nat.le_trans beyond.le (wide outer older)
      obtain ⟨middle, left, first⟩ := ihInner inside (slot + 1) _ _ (kept.enter fits) around
      -- behind it, the rule may still be open but no longer counts
      obtain ⟨behind, done, second⟩ := ihTail beyond (slot + 1 + inner.events.length) middle line
        (left.leave (Nat.le_refl last)) wide
      refine ⟨behind, done, fun rest => ?_⟩
      have count : slot + ((inner.events ++ tail.events).length + 1) =
          slot + 1 + inner.events.length + tail.events.length := by
        rw [List.length_append]
        omega
      rw [events, List.cons_append, List.append_assoc, sheltersFrom, settled.shelter_eq onward,
        lineages, List.zipWith_cons_cons, List.cons_append, List.length_cons, count,
        List.zipWith_append (length_lineages ..).symm, List.append_assoc, ← second rest,
        ← first (tail.events ++ rest)]
      rfl

theorem Spans.within_lineage {forest : Forest} {start stop : Nat} (spans : forest.Spans start stop)
    (slot : Nat) (line : List Opening) (wide : ∀ opening ∈ line, stop ≤ opening.rule.stop) :
    ∀ event above, (event, above) ∈ forest.events.zip (forest.lineages line slot) →
      ∀ opening ∈ above, event.Within 0 opening.rule.stop := by
  induction forest generalizing start stop slot line with
  | nil =>
      intro event above member
      cases member
  | token id place tail ih =>
      intro event above member opening outer
      rcases List.mem_cons.mp member with same | later
      · cases same
        have extent := spans.2.le
        have around := wide opening outer
        exact ⟨rfl, Nat.zero_le place, by simp only [Event.token]; omega⟩
      · exact ih spans.2 (slot + 1) line wide event above later opening outer
  | rule id first last inner tail ihInner ihTail =>
      obtain ⟨-, inside, beyond⟩ := spans
      have reach := beyond.le
      intro event above member opening outer
      rw [events, lineages, List.zip_cons_cons, List.zip_append (length_lineages ..).symm,
        List.mem_cons, List.mem_append] at member
      rcases member with same | enclosed | following
      · cases same
        exact ⟨last, rfl, Nat.zero_le first, inside.le, Nat.le_trans reach (wide opening outer)⟩
      · refine ihInner inside (slot + 1) _ ?_ event above enclosed opening outer
        intro around found
        rcases List.mem_cons.mp found with same | older
        · subst around
          exact Nat.le_refl last
        · exact Nat.le_trans reach (wide around older)
      · exact ihTail beyond _ line wide event above following opening outer

/-- Whether cues call for the events of a forest as they should. Each event begins once, in
order, and each rule is left once, behind its first call. The calls of an event stand inside
those of the rules in its lineage that end behind its start, and of no others; if it covers
a lexeme, these are all the rules in its lineage. -/
structure Performs (forest : Forest) (cues : List Cue) : Prop where
  begun : cues.filter (!·.isLeave) = forest.events.zipIdx.map fun (event, slot) => event.cue slot
  left : ∀ slot, cues.count (.leave slot) = cues.count (.enter slot)
  paired : ∀ front slot back, cues = front ++ .leave slot :: back → .enter slot ∈ front
  nested : ∀ front cue back, cues = front ++ cue :: back → ∃ event line,
    forest.events[cue.slot]? = some event ∧ (forest.lineages [] 0)[cue.slot]? = some line ∧
    (∀ outer, (.enter outer ∈ front ∧ .leave outer ∈ back) ↔
      ∃ opening ∈ line, opening.slot = outer ∧ event.start < opening.rule.stop) ∧
    ∀ first last, event.span? = some (first, last) → first < last →
      ∀ outer, (.enter outer ∈ front ∧ .leave outer ∈ back) ↔
        ∃ opening ∈ line, opening.slot = outer

end Forest

theorem Event.Within.start_lt {event : Event} {start stop first last : Nat}
    (within : event.Within start stop) (span : event.span? = some (first, last))
    (covers : first < last) : event.start < stop := by
  unfold Event.Within at within
  unfold Event.span? at span
  cases subject : event.subject with
  | token id =>
      rw [subject] at within
      exact within.2.2
  | rule id =>
      rw [subject] at within span
      obtain ⟨upTo, closed, -, -, behind⟩ := within
      rw [closed] at span
      cases span
      omega

namespace Forest

theorem Spans.shelterSlots_eq {forest : Forest} {start stop slot : Nat} {event : Event}
    {line : List Opening} (spans : forest.Spans start stop)
    (listed : forest.events[slot]? = some event)
    (inside : (forest.lineages [] 0)[slot]? = some line) :
    shelterSlots forest.events slot = (event.covering line).map (·.slot) := by
  obtain ⟨behind, -, sheltered⟩ := spans.shelters 0 [] [] ⟨rfl, .nil⟩ (by simp)
  have shelters := sheltered []
  rw [List.append_nil, sheltersFrom, List.append_nil] at shelters
  rw [shelterSlots, shelters, List.getElem?_zipWith, listed, inside]
  rfl

theorem Spans.performs {forest : Forest} {start stop : Nat} (spans : forest.Spans start stop) :
    forest.Performs (cuesFrom 0 [] forest.events) := by
  have word := cues_bracketed forest.events
  have begun := filter_cuesFrom 0 [] forest.events
  have once : ((cuesFrom 0 [] forest.events).filter (!·.isLeave)).Nodup :=
    begun ▸ nodup_begun forest.events
  refine ⟨begun, fun slot => by simpa using word.count_leave slot, ?_, ?_⟩
  · intro front slot back parts
    rw [parts] at word
    exact word.enter_before_leave
  · intro front cue back parts
    have bound : cue.slot < forest.events.length := slot_lt_of_mem (by simp [parts])
    have bounded : cue.slot < (forest.lineages [] 0).length := by rwa [length_lineages]
    have listed := List.getElem?_eq_getElem bound
    have inside := List.getElem?_eq_getElem bounded
    have nested : ∀ outer, (.enter outer ∈ front ∧ .leave outer ∈ back) ↔
        ∃ opening ∈ (forest.lineages [] 0)[cue.slot], opening.slot = outer ∧
          forest.events[cue.slot].start < opening.rule.stop := by
      intro outer
      rw [parts] at word once
      rw [word.encloses once outer, spans.shelterSlots_eq listed inside, List.mem_map]
      simp only [Event.covering, List.mem_filter, decide_eq_true_eq, and_assoc, and_comm]
    refine ⟨_, _, listed, inside, nested, fun first last span covers outer => ?_⟩
    rw [nested outer]
    -- none of the rules around an event that covers something ends where it begins
    have paired : (forest.events[cue.slot], (forest.lineages [] 0)[cue.slot]) ∈
        forest.events.zip (forest.lineages [] 0) :=
      List.mem_of_getElem? (List.getElem?_zip_eq_some.mpr ⟨listed, inside⟩)
    constructor
    · rintro ⟨opening, member, same, -⟩
      exact ⟨opening, member, same⟩
    · rintro ⟨opening, member, same⟩
      have within := spans.within_lineage 0 [] (by simp) _ _ paired opening member
      exact ⟨opening, member, same, within.start_lt span covers⟩

theorem Faithful.playable {watch : Watch} {lexemes : Array Lexeme} {forest : Forest}
    {start stop : Nat} (faithful : forest.Faithful watch lexemes start stop) :
    ∀ event ∈ forest.events, event.Playable lexemes := by
  intro event member
  have within := faithful.spans.within event member
  unfold Event.Within at within
  unfold Event.Playable
  cases subject : event.subject with
  | rule id =>
      rw [subject] at within
      obtain ⟨last, closed, -⟩ := within
      exact ⟨last, closed⟩
  | token id =>
      obtain ⟨lexeme, found, -⟩ := faithful.lexeme event member id subject
      exact ⟨lexeme, found⟩

end Forest

namespace Recognizer

variable {r : Recognizer} {id : RuleId} {journal : Option (Array Step)} {after : Progress}

theorem run_cues (accepted : r.run id journal = ⟨.matched, after⟩) :
    (after.trail.replay r.lexemes).fault = none ∧
      after.trail.cues.map (·.call? after.trail.events.toList r.lexemes) =
        (after.trail.replay r.lexemes).calls.map some := by
  obtain ⟨forest, found, listed⟩ := run_finds accepted
  have faithful : forest.Faithful r.watch r.lexemes 0 after.cursor := found.faithful
  rw [Trail.cues, Trail.replay, listed]
  exact replayFrom_eq_cues forest.events 0 [] rfl (fun _ member => nomatch member)
    faithful.playable

/-- The trail of an accepted run can be replayed, with the lexeme of its token for each event
of a token, and the replay nests the calls as the matches were nested. -/
theorem run_replay (accepted : r.run id journal = ⟨.matched, after⟩) :
    ∃ forest, r.Finds (.one (.rule id)) 0 (.matched after.cursor forest) ∧
      after.trail.events.toList = forest.events ∧
      (after.trail.replay r.lexemes).fault = none ∧
      after.trail.cues.map (·.call? forest.events r.lexemes) =
        (after.trail.replay r.lexemes).calls.map some ∧
      (∀ event ∈ forest.events, ∀ token, event.subject = .token token →
        ∃ lexeme, r.lexemes[event.start]? = some lexeme ∧ lexeme.id = token) ∧
      forest.Performs after.trail.cues := by
  obtain ⟨forest, found, listed⟩ := run_finds accepted
  have faithful : forest.Faithful r.watch r.lexemes 0 after.cursor := found.faithful
  obtain ⟨faultless, calls⟩ := run_cues accepted
  rw [listed] at calls
  refine ⟨forest, found, listed, faultless, calls, faithful.lexeme, ?_⟩
  rw [Trail.cues, listed]
  exact faithful.spans.performs

theorem run_replay_listing :
    ∃ forest, listing.Finds (.one (.rule ⟨0⟩)) 0 (.matched 2 forest) ∧
      forest.Performs (listing.run ⟨0⟩ none).state.trail.cues := by
  have accepted : listing.run ⟨0⟩ none = ⟨.matched, (listing.run ⟨0⟩ none).state⟩ := by
    decide +kernel
  have cursor : (listing.run ⟨0⟩ none).state.cursor = 2 := by decide +kernel
  obtain ⟨forest, found, -, -, -, -, performs⟩ := run_replay accepted
  exact ⟨forest, cursor ▸ found, performs⟩

end Recognizer

end TextGrammar
