import TextGrammar.Text.Fields

/-!
Sets of code points given as closed ranges, and the compact text that the property
tables are kept in: blank-separated words such as `41-5A` or `AA`, in hexadecimal.
-/

namespace TextGrammar.Unicode

structure CodeRange where
  first : Nat
  last : Nat
  deriving DecidableEq, Repr

def hexDigitValue (c : Char) : Nat :=
  if '0' ≤ c ∧ c ≤ '9' then c.toNat - 48
  else if 'a' ≤ c ∧ c ≤ 'f' then c.toNat - 87
  else if 'A' ≤ c ∧ c ≤ 'F' then c.toNat - 55
  else 0

def ofHexDigits (digits : List Char) : Nat :=
  digits.foldl (fun value c => 16 * value + hexDigitValue c) 0

def tableWords (table : String) : List (List Char) :=
  Text.fields (fun c => c = ' ' || c = '\n') table.toList

def CodeRange.ofWord (word : List Char) : CodeRange :=
  let first := word.takeWhile (· ≠ '-')
  let last := word.drop (first.length + 1)
  ⟨ofHexDigits first, ofHexDigits (if last.isEmpty then first else last)⟩

def CodeRange.ofTable (table : String) : List CodeRange :=
  (tableWords table).map CodeRange.ofWord

def CodeRange.contains (range : CodeRange) (code : Nat) : Bool :=
  range.first ≤ code && code ≤ range.last

def inRanges (ranges : List CodeRange) (code : Nat) : Bool :=
  ranges.any (·.contains code)

end TextGrammar.Unicode
