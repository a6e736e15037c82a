import TextGrammar.Notation.Phrase

/-!
How a phrase grows. Inside one pair of parentheses, or outside all, the marks are taken
from left to right and each one changes the phrase read so far at its right end: a
quantifier takes hold of the last name, group or repetition, a further part extends the
last sequence or starts one, and a bar opens an alternative for the next part to fill. So
quantifiers bind closest, then sequences, then alternatives, and no sequence stands
directly in a sequence and no choice in a choice.
-/

namespace TextGrammar.Notation

mutual

def Phrase.follow : Phrase → Phrase → Phrase
  | .sequence parts, part => .sequence (parts ++ [part])
  | .choice alternatives, part => .choice (Phrase.followLast alternatives part)
  | phrase, part => .sequence [phrase, part]

def Phrase.followLast : List Phrase → Phrase → List Phrase
  | [], _ => []
  | [last], part => [last.follow part]
  | first :: second :: rest, part => first :: Phrase.followLast (second :: rest) part

end

mutual

/-- A phrase whose last name, group or repetition is repeated. -/
def Phrase.quantify (bounds : Bounds) : Phrase → Phrase
  | .sequence parts => .sequence (Phrase.quantifyLast bounds parts)
  | .choice alternatives => .choice (Phrase.quantifyLast bounds alternatives)
  | phrase => .repeated bounds phrase

def Phrase.quantifyLast (bounds : Bounds) : List Phrase → List Phrase
  | [] => []
  | [last] => [last.quantify bounds]
  | first :: second :: rest => first :: Phrase.quantifyLast bounds (second :: rest)

end

def Phrase.toChoice : Phrase → Phrase
  | .choice alternatives => .choice alternatives
  | phrase => .choice [phrase]

/-- What has been read on one level of parentheses: the phrase so far, and the offset of a
bar that has nothing behind it yet. -/
structure Level where
  phrase : Option Phrase
  openBar : Option Nat
  deriving Repr

namespace Level

def empty : Level := ⟨none, none⟩

def push (level : Level) (part : Phrase) : Level :=
  match level.phrase, level.openBar with
  | none, _ => ⟨some part, none⟩
  | some (.choice alternatives), some _ => ⟨some (.choice (alternatives ++ [part])), none⟩
  | some phrase, _ => ⟨some (phrase.follow part), none⟩

def quantify (level : Level) (bounds : Bounds) : Option Level :=
  match level.phrase, level.openBar with
  | some phrase, none => some ⟨some (phrase.quantify bounds), none⟩
  | _, _ => none

def alternate (level : Level) (offset : Nat) : Option Level :=
  match level.phrase, level.openBar with
  | some phrase, none => some ⟨some phrase.toChoice, some offset⟩
  | _, _ => none

end Level

end TextGrammar.Notation
