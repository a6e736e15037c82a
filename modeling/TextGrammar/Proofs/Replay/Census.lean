import TextGrammar.Proofs.Replay.Selection

/-!
What a replay calls for. When a rule is left hangs on the events that come up behind it. But each
rule is entered once and left once, and each token is called for once, with the lexeme at its
start: the calls are those for the events, one by one, in some order.
-/

namespace TextGrammar

def Event.calls (lexemes : Array Lexeme) (event : Event) : List Call :=
  match event.subject with
  | .rule _ => [.enter event, .leave event]
  | .token _ => lexemes[event.start]?.toList.map (.token event ·)

variable {lexemes : Array Lexeme} {event : Event} {events : List Event}

theorem calls_replayFrom_singleton (playable : event.Playable lexemes) :
    (replayFrom lexemes [] [event]).calls = event.calls lexemes := by
  unfold Event.Playable at playable
  unfold Event.calls
  cases subject : event.subject with
  | rule id =>
      rw [subject] at playable
      obtain ⟨stop, closed⟩ := playable
      simp [replayFrom, subject, closed, Replay.after]
  | token id =>
      rw [subject] at playable
      obtain ⟨lexeme, found⟩ := playable
      simp [replayFrom, subject, found, Replay.after]

theorem calls_replayFrom_perm (playable : ∀ event ∈ events, event.Playable lexemes)
    (nest : List OpenRule) :
    (replayFrom lexemes nest events).calls.Perm
      (nest.map (fun rule => .leave rule.event) ++ events.flatMap (Event.calls lexemes)) := by
  induction events generalizing nest with
  | nil => simp [replayFrom]
  | cons event rest ih =>
      have here := playable event List.mem_cons_self
      obtain ⟨call, -, -, steps⟩ := replayFrom_of_playable here
      -- on its own, the event is called for and what it opens is left
      have alone := calls_replayFrom_singleton here
      rw [steps [] [], Replay.calls_after] at alone
      simp only [List.takeWhile_nil, List.dropWhile_nil, List.map_nil, List.nil_append,
        List.append_nil, replayFrom] at alone
      have later := ih (fun event member => playable event (List.mem_cons_of_mem _ member))
        (event.opens ++ nest.dropWhile fun rule => rule.stop ≤ event.start)
      have parted : nest.map (fun rule => Call.leave rule.event) =
          (nest.takeWhile fun rule => rule.stop ≤ event.start).map (fun rule => .leave rule.event) ++
            (nest.dropWhile fun rule => rule.stop ≤ event.start).map fun rule =>
              .leave rule.event := by
        rw [← List.map_append, List.takeWhile_append_dropWhile]
      rw [steps nest rest, Replay.calls_after, List.flatMap_cons, ← alone, parted]
      rw [List.map_append] at later
      apply (later.append_left _).trans
      generalize (nest.takeWhile _).map _ = due
      generalize (nest.dropWhile _).map _ = shelter
      generalize event.opens.map _ = opened
      -- what the event opened is left behind what was open, or in front of it
      calc due ++ [call] ++ (opened ++ shelter ++ rest.flatMap (Event.calls lexemes))
        _ = due ++ (([call] ++ opened) ++ shelter) ++ rest.flatMap (Event.calls lexemes) := by
          simp only [List.append_assoc]
        List.Perm _ (due ++ (shelter ++ ([call] ++ opened)) ++
            rest.flatMap (Event.calls lexemes)) :=
          (List.perm_append_comm.append_left due).append_right _
        _ = due ++ shelter ++ ([call] ++ opened ++ rest.flatMap (Event.calls lexemes)) := by
          simp only [List.append_assoc]

/-- In the replay of an accepted run, each event is called for once. -/
theorem Recognizer.run_calls_perm {r : Recognizer} {id : RuleId} {journal : Option (Array Step)}
    {after : Progress} (accepted : r.run id journal = ⟨.matched, after⟩) :
    (after.trail.replay r.lexemes).calls.Perm
      (after.trail.events.toList.flatMap (Event.calls r.lexemes)) := by
  obtain ⟨forest, found, listed⟩ := run_finds accepted
  have faithful : forest.Faithful r.watch r.lexemes 0 after.cursor := found.faithful
  rw [Trail.replay, listed]
  exact calls_replayFrom_perm faithful.playable []

end TextGrammar
