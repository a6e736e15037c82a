import TextGrammar.Fault

/-!
Events and trails. An event records that a watched rule or token matched, and where, in
positions of the lexeme array. A trail collects events in the order in which they began;
going back to an earlier length takes back what was recorded since.
-/

namespace TextGrammar

inductive Subject where
  | rule (id : RuleId)
  | token (id : TokenId)
  deriving DecidableEq, Repr

/-- A recorded match. The event of a rule has no end while the rule is being matched, and
the event of a token covers the one lexeme at its start. -/
structure Event where
  subject : Subject
  start : Nat
  stop : Option Nat
  deriving DecidableEq, Repr

namespace Event

def token (id : TokenId) (start : Nat) : Event := ⟨.token id, start, none⟩

def rule (id : RuleId) (start : Nat) : Event := ⟨.rule id, start, none⟩

def ruleId? (event : Event) : Option RuleId :=
  match event.subject with
  | .rule id => some id
  | .token _ => none

def tokenId? (event : Event) : Option TokenId :=
  match event.subject with
  | .rule _ => none
  | .token id => some id

def span? (event : Event) : Option (Nat × Nat) :=
  match event.subject with
  | .rule _ => event.stop.map (event.start, ·)
  | .token _ => some (event.start, event.start + 1)

def text (event : Event) : String :=
  match event.subject, event.stop with
  | .token id, _ => toString id ++ " @" ++ toString event.start
  | .rule id, some stop => toString id ++ s!" {event.start}..{stop}"
  | .rule id, none => toString id ++ s!" {event.start}..?"

end Event

structure Trail where
  events : Array Event
  deriving DecidableEq, Repr

namespace Trail

def empty : Trail := ⟨#[]⟩

def size (trail : Trail) : Nat := trail.events.size

def push (trail : Trail) (event : Event) : Trail := ⟨trail.events.push event⟩

def truncate (trail : Trail) (size : Nat) : Trail := ⟨trail.events.shrink size⟩

/-- Gives the event in a slot its end. An event that has one is left as it is. -/
def close (trail : Trail) (slot stop : Nat) : Except Fault Trail :=
  match trail.events[slot]? with
  | none => .error (.slotOutOfBounds trail.size slot)
  | some event =>
      match event.stop with
      | some _ => .error .closedTwice
      | none => .ok ⟨trail.events.setIfInBounds slot { event with stop := some stop }⟩

def record (trail : Trail) (events : List Event) : Trail := ⟨trail.events ++ events.toArray⟩

@[simp] theorem record_nil (trail : Trail) : trail.record [] = trail := by simp [record]

theorem record_record (trail : Trail) (left right : List Event) :
    (trail.record left).record right = trail.record (left ++ right) := by simp [record]

theorem toList_record (trail : Trail) (events : List Event) :
    (trail.record events).events.toList = trail.events.toList ++ events := by simp [record]

theorem record_inj {trail : Trail} {left right : List Event}
    (same : trail.record left = trail.record right) : left = right := by
  have listed := congrArg (fun all : Trail => all.events.toList) same
  simpa only [toList_record, List.append_cancel_left_eq] using listed

theorem push_eq_record (trail : Trail) (event : Event) :
    trail.push event = trail.record [event] := by simp [push, record]

theorem truncate_record (trail : Trail) (events : List Event) :
    (trail.record events).truncate trail.size = trail := by
  simp [record, truncate, size]

theorem close_record (trail : Trail) (event : Event) (rest : List Event) (stop : Nat)
    (unfinished : event.stop = none) :
    (trail.record (event :: rest)).close trail.size stop =
      .ok (trail.record ({ event with stop := some stop } :: rest)) := by
  have here : (trail.record (event :: rest)).events[trail.size]? = some event := by
    simp [record, size]
  simp only [close, here, unfinished]
  congr 2
  simp [record, size]

end Trail

end TextGrammar
