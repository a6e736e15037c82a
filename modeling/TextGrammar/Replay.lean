import TextGrammar.Lexeme
import TextGrammar.Matching.Event

/-!
Replaying a trail as nested calls. Before an event is called for, every rule that is open
and ends where the event starts, or before, is left, the last one entered first. At the
end all that are still open are left. So a rule that covers nothing is left at once and
encloses nothing.
-/

namespace TextGrammar

inductive Call where
  | enter (event : Event)
  /-- The rule entered last and not yet left is done. -/
  | leave (event : Event)
  | token (event : Event) (lexeme : Lexeme)
  deriving DecidableEq, Repr

structure Replay where
  calls : List Call
  fault : Option Fault
  deriving DecidableEq, Repr

def Replay.after (calls : List Call) (replay : Replay) : Replay :=
  { replay with calls := calls ++ replay.calls }

structure OpenRule where
  event : Event
  stop : Nat
  deriving DecidableEq, Repr

/-- Replays events, `nest` being the rules that are open, the last one entered first. -/
def replayFrom (lexemes : Array Lexeme) (nest : List OpenRule) : List Event → Replay
  | [] => ⟨nest.map fun rule => .leave rule.event, none⟩
  | event :: rest =>
      let due := (nest.takeWhile fun rule => rule.stop ≤ event.start).map fun rule =>
        Call.leave rule.event
      let nest := nest.dropWhile fun rule => rule.stop ≤ event.start
      match event.subject with
      | .rule _ =>
          match event.stop with
          | none => ⟨due, some (.neverClosed event.start)⟩
          | some stop =>
              (replayFrom lexemes (⟨event, stop⟩ :: nest) rest).after (due ++ [.enter event])
      | .token _ =>
          match lexemes[event.start]? with
          | none => ⟨due, some (.pastEnd event.start lexemes.size)⟩
          | some lexeme =>
              (replayFrom lexemes nest rest).after (due ++ [.token event lexeme])

def Trail.replay (trail : Trail) (lexemes : Array Lexeme) : Replay :=
  replayFrom lexemes [] trail.events.toList

end TextGrammar
