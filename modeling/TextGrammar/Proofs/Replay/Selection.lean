import TextGrammar.Proofs.Matching.Restriction
import TextGrammar.Proofs.Replay.Nesting

/-!
Replaying a part of a trail. When a rule is left hangs on the events that come up behind it,
so where some are missing it is left later than it would be. But no call of an event that is
there comes in between: the calls for a part of the events are, in order, the calls for all
of them with the others left out.
-/

namespace TextGrammar

namespace Call

def event : Call → Event
  | .enter event | .leave event | .token event _ => event

def subject (call : Call) : Subject := call.event.subject

def isLeave : Call → Bool
  | .leave _ => true
  | .enter _ | .token _ _ => false

end Call

def Event.opens (event : Event) : List OpenRule :=
  match event.subject with
  | .rule _ => [⟨event, event.stop.getD event.start⟩]
  | .token _ => []

theorem Event.event_of_mem_opens {event : Event} {rule : OpenRule}
    (member : rule ∈ event.opens) : rule.event = event := by
  unfold opens at member
  split at member
  · rw [List.mem_singleton.mp member]
  · cases member

theorem Replay.after_after (early late : List Call) (replay : Replay) :
    (replay.after late).after early = replay.after (early ++ late) := by
  simp [Replay.after]

theorem replayFrom_of_playable {lexemes : Array Lexeme} {event : Event}
    (playable : event.Playable lexemes) : ∃ call : Call, call.event = event ∧
      call.isLeave = false ∧ ∀ nest rest, replayFrom lexemes nest (event :: rest) =
        (replayFrom lexemes
          (event.opens ++ nest.dropWhile fun rule => rule.stop ≤ event.start) rest).after
          ((nest.takeWhile fun rule => rule.stop ≤ event.start).map (fun rule =>
            .leave rule.event) ++ [call]) := by
  unfold Event.Playable at playable
  unfold Event.opens
  cases subject : event.subject with
  | rule id =>
      rw [subject] at playable
      obtain ⟨stop, closed⟩ := playable
      refine ⟨.enter event, rfl, rfl, fun nest rest => ?_⟩
      rw [replayFrom]
      simp [subject, closed]
  | token id =>
      rw [subject] at playable
      obtain ⟨lexeme, found⟩ := playable
      refine ⟨.token event lexeme, rfl, rfl, fun nest rest => ?_⟩
      rw [replayFrom]
      simp [subject, found]

/-- Rules that end in front of all events still to come can be left at once. -/
theorem replayFrom_append {lexemes : Array Lexeme} {due nest : List OpenRule}
    {events : List Event} (early : ∀ rule ∈ due, ∀ event ∈ events, rule.stop ≤ event.start) :
    replayFrom lexemes (due ++ nest) events =
      (replayFrom lexemes nest events).after (due.map fun rule => .leave rule.event) := by
  cases events with
  | nil => simp [replayFrom, Replay.after]
  | cons event rest =>
      have past : ∀ rule ∈ due, decide (rule.stop ≤ event.start) = true := fun rule member =>
        decide_eq_true (early rule member event List.mem_cons_self)
      rw [replayFrom, replayFrom, List.takeWhile_append_of_pos past,
        List.dropWhile_append_of_pos past, List.map_append]
      cases event.subject with
      | rule id =>
          cases event.stop with
          | none => rfl
          | some stop => simp only [Replay.after_after, List.append_assoc]
      | token id =>
          cases lexemes[event.start]? with
          | none => rfl
          | some lexeme => simp only [Replay.after_after, List.append_assoc]

/-- Whether open rules nest in one another and in them the events still to come: each event
begins behind a rule's end or ends in front of it. -/
structure Fits (nest : List OpenRule) (events : List Event) : Prop where
  sorted : nest.Pairwise fun inner outer => inner.stop ≤ outer.stop
  inside : ∀ rule ∈ nest, ∀ event ∈ events, ∀ stop, event.stop = some stop →
    event.start < rule.stop → stop ≤ rule.stop

theorem Fits.step {lexemes : Array Lexeme} {nest : List OpenRule} {event : Event}
    {rest : List Event} (fits : Fits nest (event :: rest))
    (nested : ∀ later ∈ rest, event.Nests later) (playable : event.Playable lexemes) :
    Fits (event.opens ++ nest.dropWhile fun rule => rule.stop ≤ event.start) rest := by
  have kept : Fits (nest.dropWhile fun rule => rule.stop ≤ event.start) rest :=
    ⟨fits.sorted.sublist (List.dropWhile_sublist _), fun rule member later there =>
      fits.inside rule ((List.dropWhile_sublist _).subset member) later
        (List.mem_cons_of_mem event there)⟩
  unfold Event.Playable at playable
  unfold Event.opens
  cases subject : event.subject with
  | token id => exact kept
  | rule id =>
      rw [subject] at playable
      obtain ⟨stop, closed⟩ := playable
      simp only [closed, Option.getD_some, List.singleton_append]
      refine ⟨List.pairwise_cons.mpr ⟨?_, kept.sorted⟩, ?_⟩
      · intro outer member
        rw [dropWhile_eq_filter fits.sorted, List.mem_filter] at member
        exact fits.inside outer member.1 event List.mem_cons_self stop closed
          (by simpa using member.2)
      · intro rule member later there last ended begun
        rcases List.mem_cons.mp member with same | older
        · subst same
          rcases nested later there stop last closed ended with inner | behind
          · exact inner.2
          · exact absurd begun (Nat.not_lt.mpr behind)
        · exact kept.inside rule older later there last ended begun

variable {kept : Subject → Bool} {lexemes : Array Lexeme}

theorem map_leave_filter (due : List OpenRule) :
    (due.filter fun rule => kept rule.event.subject).map (fun rule => Call.leave rule.event) =
      (due.map fun rule => Call.leave rule.event).filter fun call => kept call.subject := by
  rw [List.filter_map]
  rfl

theorem Replay.calls_after (early : List Call) (replay : Replay) :
    (replay.after early).calls = early ++ replay.calls := rfl

/-- The calls for the kept events are the kept calls, where the rules left out among those
that are open at first are left out too. -/
theorem replayFrom_filter (events : List Event) (nest : List OpenRule)
    (fits : Fits nest events)
    (ordered : events.Pairwise fun earlier later => earlier.start ≤ later.start)
    (nested : events.Pairwise Event.Nests)
    (playable : ∀ event ∈ events, event.Playable lexemes) :
    replayFrom lexemes (nest.filter fun rule => kept rule.event.subject)
        (events.filter fun event => kept event.subject) =
      ⟨(replayFrom lexemes nest events).calls.filter fun call => kept call.subject, none⟩ := by
  induction events generalizing nest with
  | nil => simp only [List.filter_nil, replayFrom, map_leave_filter]
  | cons event rest ih =>
      obtain ⟨before, orderedRest⟩ := List.pairwise_cons.mp ordered
      obtain ⟨around, nestedRest⟩ := List.pairwise_cons.mp nested
      have here := playable event List.mem_cons_self
      have onward := ih _ (fits.step around here) orderedRest nestedRest fun later there =>
        playable later (List.mem_cons_of_mem event there)
      obtain ⟨call, called, -, steps⟩ := replayFrom_of_playable here
      have subject : call.subject = event.subject := by rw [Call.subject, called]
      rw [steps nest rest, Replay.calls_after]
      rw [List.filter_append] at onward
      by_cases chosen : kept event.subject = true
      · -- of a sorted nest, those due among the kept ones are the kept ones among those due
        have sorted := fits.sorted.filter fun rule => kept rule.event.subject
        have due := takeWhile_eq_filter sorted event.start
        have shelter := dropWhile_eq_filter sorted event.start
        rw [List.filter_comm, ← takeWhile_eq_filter fits.sorted] at due
        rw [List.filter_comm, ← dropWhile_eq_filter fits.sorted] at shelter
        have opens : event.opens.filter (fun rule => kept rule.event.subject) = event.opens :=
          List.filter_eq_self.mpr fun rule member => by
            rw [Event.event_of_mem_opens member, chosen]
        rw [opens] at onward
        rw [List.filter_cons_of_pos (by exact chosen), steps, due, shelter, onward,
          map_leave_filter]
        simp [Replay.after, List.filter_append, subject, chosen]
      · -- those due are left later, but in front of all that comes
        have early : ∀ rule ∈ (nest.takeWhile fun rule => rule.stop ≤ event.start).filter
            (fun rule => kept rule.event.subject),
            ∀ later ∈ rest.filter (fun event => kept event.subject), rule.stop ≤ later.start := by
          intro rule member later there
          rw [takeWhile_eq_filter fits.sorted] at member
          have past := (List.mem_filter.mp (List.mem_filter.mp member).1).2
          exact Nat.le_trans (of_decide_eq_true past) (before later (List.mem_filter.mp there).1)
        have whole := congrArg (List.filter fun rule => kept rule.event.subject)
          (List.takeWhile_append_dropWhile (p := fun rule : OpenRule =>
            decide (rule.stop ≤ event.start)) (l := nest))
        rw [List.filter_append] at whole
        have opens : event.opens.filter (fun rule => kept rule.event.subject) = [] :=
          List.filter_eq_nil_iff.mpr fun rule member => by
            rwa [Event.event_of_mem_opens member]
        rw [opens, List.nil_append] at onward
        rw [List.filter_cons_of_neg (by exact chosen), ← whole, replayFrom_append early, onward,
          map_leave_filter]
        simp [Replay.after, List.filter_append, subject, chosen]

theorem Recognizer.run_replay_restrict {r : Recognizer} {id : RuleId}
    {journal : Option (Array Step)} {after : Progress}
    (accepted : r.run id journal = ⟨.matched, after⟩) (kept : Subject → Bool) :
    (after.trail.restrict kept).replay r.lexemes =
      ⟨(after.trail.replay r.lexemes).calls.filter fun call => kept call.subject, none⟩ := by
  obtain ⟨forest, found, listed⟩ := run_finds accepted
  have faithful : forest.Faithful r.watch r.lexemes 0 after.cursor := found.faithful
  have fits : Fits [] forest.events := ⟨.nil, fun _ member => nomatch member⟩
  rw [Trail.replay, Trail.replay, Trail.toList_restrict, listed]
  exact replayFrom_filter forest.events [] fits faithful.spans.pairwise_start
    faithful.spans.pairwise_nests faithful.playable

end TextGrammar
