import TextGrammar.Lexeme
import TextGrammar.Matching.Event

/-!
How far a match has come: the cursor in the lexeme array, the trail, what is left of the
fuel, how deeply rules are nested, and the steps taken where someone wants to know them.
-/

namespace TextGrammar

structure Limits where
  fuel : UInt32
  depth : UInt32
  deriving DecidableEq, Repr

def Limits.standard : Limits := ⟨10000000, 1024⟩

inductive Step where
  | enter (rule : RuleId) (cursor : Nat)
  | leave (rule : RuleId) (cursor : Nat) (matched : Bool)
  /-- A lexeme was asked for; `found` is the one at the cursor. -/
  | test (expected : TokenId) (cursor : Nat) (found : Option Lexeme) (matched : Bool)
  /-- A failed attempt moved the cursor back. -/
  | backtrack (start stop : Nat)
  deriving DecidableEq, Repr

structure Bookmark where
  cursor : Nat
  watermark : Nat
  deriving DecidableEq, Repr

/-- The state of a match. The journal is absent where nobody observes it. -/
structure Progress where
  cursor : Nat
  trail : Trail
  fuel : Nat
  depth : Nat
  journal : Option (Array Step)
  deriving DecidableEq, Repr

namespace Progress

def start (limits : Limits) (journal : Option (Array Step)) : Progress :=
  ⟨0, .empty, limits.fuel.toNat, 0, journal⟩

def bookmark (state : Progress) : Bookmark := ⟨state.cursor, state.trail.size⟩

def restore (state : Progress) (place : Bookmark) : Progress :=
  { state with cursor := place.cursor, trail := state.trail.truncate place.watermark }

def note (state : Progress) (step : Step) : Progress :=
  { state with journal := state.journal.map (·.push step) }

def enter (state : Progress) (id : RuleId) : Progress :=
  { state with depth := state.depth + 1 }.note (.enter id state.cursor)

/-- Goes back after a failed attempt. It is a step only if the cursor moves. -/
def backtrack (state : Progress) (place : Bookmark) : Progress :=
  if state.cursor = place.cursor then state.restore place
  else (state.note (.backtrack state.cursor place.cursor)).restore place

@[simp] theorem note_cursor (state : Progress) (step : Step) :
    (state.note step).cursor = state.cursor := rfl

@[simp] theorem note_trail (state : Progress) (step : Step) :
    (state.note step).trail = state.trail := rfl

@[simp] theorem note_fuel (state : Progress) (step : Step) :
    (state.note step).fuel = state.fuel := rfl

@[simp] theorem note_depth (state : Progress) (step : Step) :
    (state.note step).depth = state.depth := rfl

@[simp] theorem note_isSome_journal (state : Progress) (step : Step) :
    (state.note step).journal.isSome = state.journal.isSome := by simp [note]

@[simp] theorem enter_cursor (state : Progress) (id : RuleId) :
    (state.enter id).cursor = state.cursor := rfl

@[simp] theorem enter_trail (state : Progress) (id : RuleId) :
    (state.enter id).trail = state.trail := rfl

@[simp] theorem enter_fuel (state : Progress) (id : RuleId) :
    (state.enter id).fuel = state.fuel := rfl

@[simp] theorem enter_depth (state : Progress) (id : RuleId) :
    (state.enter id).depth = state.depth + 1 := rfl

@[simp] theorem enter_isSome_journal (state : Progress) (id : RuleId) :
    (state.enter id).journal.isSome = state.journal.isSome := note_isSome_journal _ _

@[simp] theorem backtrack_cursor (state : Progress) (place : Bookmark) :
    (state.backtrack place).cursor = place.cursor := by
  unfold backtrack; split <;> rfl

@[simp] theorem backtrack_trail (state : Progress) (place : Bookmark) :
    (state.backtrack place).trail = state.trail.truncate place.watermark := by
  unfold backtrack; split <;> rfl

@[simp] theorem backtrack_fuel (state : Progress) (place : Bookmark) :
    (state.backtrack place).fuel = state.fuel := by
  unfold backtrack; split <;> rfl

@[simp] theorem backtrack_depth (state : Progress) (place : Bookmark) :
    (state.backtrack place).depth = state.depth := by
  unfold backtrack; split <;> rfl

@[simp] theorem backtrack_isSome_journal (state : Progress) (place : Bookmark) :
    (state.backtrack place).journal.isSome = state.journal.isSome := by
  unfold backtrack
  split
  · rfl
  · exact note_isSome_journal state _

end Progress

end TextGrammar
