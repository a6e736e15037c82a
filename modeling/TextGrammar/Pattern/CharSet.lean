import TextGrammar.Unicode.Category
import TextGrammar.Unicode.CaseFolding

/-!
Sets of characters as a pattern writes them: ranges, named properties, and the set
operations on these. A set is kept as it was written and asked for membership, so the
tables behind a property are read only when a character outside ASCII is met.
-/

namespace TextGrammar.Pattern

open Unicode (Category)

inductive Property where
  | decimalDigit
  | blank
  | word
  | alphabetic
  | assigned
  | letter | casedLetter | mark | number | punctuation | symbol | separator | other
  | category (wanted : Category)
  deriving DecidableEq, Repr

def Property.holds (property : Property) (c : Char) : Bool :=
  match property with
  | .decimalDigit => Unicode.isDecimalDigit c
  | .blank => Unicode.isBlank c
  | .word => Unicode.isWordChar c
  | .alphabetic => Unicode.isAlphabetic c
  | .assigned => Category.of c ≠ .unassigned
  | .letter => (Category.of c).isLetter
  | .casedLetter => match Category.of c with
    | .uppercaseLetter | .lowercaseLetter | .titlecaseLetter => true
    | _ => false
  | .mark => (Category.of c).isMark
  | .number => (Category.of c).isNumber
  | .punctuation => (Category.of c).isPunctuation
  | .symbol => (Category.of c).isSymbol
  | .separator => (Category.of c).isSeparator
  | .other => (Category.of c).isOther
  | .category wanted => Category.of c = wanted

/-- A set of characters. `caseless` closes a set under change of case. -/
inductive CharSet where
  | empty
  | range (first last : Char)
  | property (property : Property)
  | complement (inner : CharSet)
  | caseless (inner : CharSet)
  | union (left right : CharSet)
  | intersection (left right : CharSet)
  | difference (left right : CharSet)
  | symmetricDifference (left right : CharSet)
  deriving DecidableEq, Repr

namespace CharSet

def contains : CharSet → Char → Bool
  | empty, _ => false
  | range first last, c => first ≤ c && c ≤ last
  | property p, c => p.holds c
  | complement inner, c => !inner.contains c
  | caseless inner, c => inner.contains c || (Unicode.caseVariants c).any inner.contains
  | union left right, c => left.contains c || right.contains c
  | intersection left right, c => left.contains c && right.contains c
  | difference left right, c => left.contains c && !right.contains c
  | symmetricDifference left right, c => left.contains c != right.contains c

def single (c : Char) : CharSet := range c c

def unions : List CharSet → CharSet
  | [] => empty
  | [set] => set
  | set :: rest => union set (unions rest)

def any : CharSet := complement empty

def underCase (ignoreCase : Bool) (set : CharSet) : CharSet :=
  if ignoreCase then caseless set else set

end CharSet

end TextGrammar.Pattern
