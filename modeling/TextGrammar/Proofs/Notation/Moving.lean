import TextGrammar.Notation.Body

/-!
Marks at other places. Where marks start has no part in what they say: if every mark is moved, the
same phrase is read, or the same is wrong with them, told at the place to which the mark has been
moved that showed it.
-/

namespace TextGrammar.Notation

section Moved

variable (move : Nat → Nat)

def Mark.moved (mark : Mark) : Mark := { mark with start := move mark.start }

def BodyError.moved : BodyError → BodyError
  | .empty => .empty
  | .unexpectedCharacter offset => .unexpectedCharacter (move offset)
  | .unbalancedGroup offset => .unbalancedGroup (move offset)
  | .emptyGroup offset => .emptyGroup (move offset)
  | .danglingQuantifier offset => .danglingQuantifier (move offset)
  | .danglingAlternative offset => .danglingAlternative (move offset)
  | .invalidBounds text offset => .invalidBounds text (move offset)

def Level.moved (level : Level) : Level := { level with openBar := level.openBar.map move }

def Interrupted.moved (around : Interrupted) : Interrupted :=
  ⟨around.level.moved move, move around.opening⟩

end Moved

variable {move : Nat → Nat}

namespace Level

variable (level : Level)

theorem push_moved (part : Phrase) :
    (level.moved move).push part = (level.push part).moved move := by
  obtain ⟨phrase, openBar⟩ := level
  cases phrase with
  | none => rfl
  | some phrase => cases openBar <;> cases phrase <;> rfl

theorem quantify_moved (bounds : Bounds) :
    (level.moved move).quantify bounds = (level.quantify bounds).map (·.moved move) := by
  obtain ⟨phrase, openBar⟩ := level
  cases phrase <;> cases openBar <;> rfl

theorem alternate_moved (offset : Nat) :
    (level.moved move).alternate (move offset) = (level.alternate offset).map (·.moved move) := by
  obtain ⟨phrase, openBar⟩ := level
  cases phrase <;> cases openBar <;> rfl

theorem finish_moved : (level.moved move).finish = level.finish.mapError (·.moved move) := by
  obtain ⟨phrase, openBar⟩ := level
  cases openBar <;> rfl

theorem take_moved (mark : Mark) :
    (level.moved move).take (mark.moved move) =
      ((level.take mark).map (·.moved move)).mapError (·.moved move) := by
  have bounds : (mark.moved move).bounds? = mark.bounds? := rfl
  unfold take
  rw [bounds]
  cases mark.bounds? with
  | none => rfl
  | some bounds =>
      simp only [quantify_moved]
      cases level.quantify bounds <;> rfl

theorem closeGroup_moved (around : Interrupted) :
    (level.moved move).closeGroup (around.moved move) =
      ((level.closeGroup around).map (·.moved move)).mapError (·.moved move) := by
  unfold closeGroup
  rw [finish_moved]
  cases level.finish with
  | error error => rfl
  | ok inner =>
      cases inner with
      | none => rfl
      | some inner => exact congrArg Except.ok (push_moved around.level (.group inner))

end Level

/-- Marks that are moved are read as before, and what is wrong with them is moved too. -/
theorem readMarks_moved (around : List Interrupted) (level : Level) (read : List Mark) :
    readMarks (around.map (·.moved move)) (level.moved move) (read.map (·.moved move)) =
      (readMarks around level read).mapError (·.moved move) := by
  induction read generalizing around level with
  | nil =>
      simp only [List.map_nil, readMarks, Level.finish_moved]
      cases level.finish with
      | error error => cases around <;> rfl
      | ok phrase => cases around <;> cases phrase <;> rfl
  | cons mark rest ih =>
      have kinds : (mark.moved move).kind = mark.kind := rfl
      cases kind : mark.kind with
      | name =>
          simp only [List.map_cons, readMarks, kinds, kind, Level.push_moved]
          exact ih around _
      | opening =>
          simp only [List.map_cons, readMarks, kinds, kind]
          exact ih (⟨level, mark.start⟩ :: around) .empty
      | closing =>
          cases around with
          | nil =>
              simp only [List.map_cons, List.map_nil, readMarks, kinds, kind, Level.finish_moved]
              cases level.finish <;> rfl
          | cons outer around =>
              simp only [List.map_cons, readMarks, kinds, kind, Level.closeGroup_moved]
              cases level.closeGroup outer with
              | error error => rfl
              | ok next => exact ih around next
      | bar =>
          have start : (mark.moved move).start = move mark.start := rfl
          simp only [List.map_cons, readMarks, kinds, kind, start, Level.alternate_moved]
          cases level.alternate mark.start with
          | none => rfl
          | some next => exact ih around next
      | optional | star | plus | bounds =>
          simp only [List.map_cons, readMarks, kinds, kind, Level.take_moved]
          cases level.take mark with
          | error error => rfl
          | ok next => exact ih around next

end TextGrammar.Notation
