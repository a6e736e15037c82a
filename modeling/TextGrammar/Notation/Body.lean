import TextGrammar.Notation.Level
import TextGrammar.Notation.Mark

/-!
Reading a rule body into a phrase. What is wrong is reported at the mark that shows it
first, from left to right; a bar without an alternative behind it and a group without
anything in it show at the next closing parenthesis or at the end.
-/

namespace TextGrammar.Notation

inductive BodyError where
  | empty
  | unexpectedCharacter (offset : Nat)
  /-- A parenthesis without its partner. -/
  | unbalancedGroup (offset : Nat)
  | emptyGroup (offset : Nat)
  /-- A quantifier with nothing in front of it to repeat. -/
  | danglingQuantifier (offset : Nat)
  /-- A bar with nothing on one side. -/
  | danglingAlternative (offset : Nat)
  /-- Bounds the wrong way round, or with a count beyond 32 bits. -/
  | invalidBounds (text : String) (offset : Nat)
  deriving DecidableEq, Repr

def Mark.bounds? (mark : Mark) : Option Bounds :=
  match mark.kind with
  | .optional => some ⟨0, some 1⟩
  | .star => some ⟨0, none⟩
  | .plus => some ⟨1, none⟩
  | _ => (Bounds.ofText? mark.chars).filter (·.isProper)

def Level.finish (level : Level) : Except BodyError (Option Phrase) :=
  match level.openBar with
  | some offset => .error (.danglingAlternative offset)
  | none => .ok level.phrase

structure Interrupted where
  level : Level
  opening : Nat

/-- Takes a quantifier. Bounds that are not proper are reported before anything else. -/
def Level.take (level : Level) (mark : Mark) : Except BodyError Level :=
  match mark.bounds? with
  | none => .error (.invalidBounds (String.ofList mark.chars) mark.start)
  | some bounds =>
      match level.quantify bounds with
      | some level => .ok level
      | none => .error (.danglingQuantifier mark.start)

def Level.closeGroup (level : Level) (around : Interrupted) : Except BodyError Level :=
  match level.finish with
  | .error error => .error error
  | .ok none => .error (.emptyGroup around.opening)
  | .ok (some inner) => .ok (around.level.push (.group inner))

/-- Reads marks on a level, `around` being the levels outside it, the nearest first. -/
def readMarks (around : List Interrupted) (level : Level) : List Mark → Except BodyError Phrase
  | [] =>
      match level.finish, around with
      | .error error, _ => .error error
      | .ok _, outer :: _ => .error (.unbalancedGroup outer.opening)
      | .ok none, [] => .error .empty
      | .ok (some phrase), [] => .ok phrase
  | mark :: rest =>
      match mark.kind with
      | .name => readMarks around (level.push (.reference (String.ofList mark.chars))) rest
      | .opening => readMarks (⟨level, mark.start⟩ :: around) .empty rest
      | .closing =>
          match around with
          | [] =>
              match level.finish with
              | .error error => .error error
              | .ok _ => .error (.unbalancedGroup mark.start)
          | outer :: around =>
              match level.closeGroup outer with
              | .error error => .error error
              | .ok level => readMarks around level rest
      | .bar =>
          match level.alternate mark.start with
          | some level => readMarks around level rest
          | none => .error (.danglingAlternative mark.start)
      | .optional | .star | .plus | .bounds =>
          match level.take mark with
          | .error error => .error error
          | .ok level => readMarks around level rest

def Phrase.ofBody (body : String) : Except BodyError Phrase :=
  match marks body.toList with
  | .error offset => .error (.unexpectedCharacter offset)
  | .ok [] => .error .empty
  | .ok marks => readMarks [] .empty marks

end TextGrammar.Notation
