import TextGrammar.Notation.Bounds
import TextGrammar.Text.Offset

/-!
The marks of a rule body: names, parentheses, bars and quantifiers. A body is cut at each
place into the longest lexeme that starts there. Separators are dropped, and a brace that
opens no bounds is refused where it stands.
-/

namespace TextGrammar.Notation

inductive MarkKind where
  | name
  | opening
  | closing
  | bounds
  | bar
  | optional
  | star
  | plus
  deriving DecidableEq, Repr

structure Mark where
  kind : MarkKind
  start : Nat
  chars : List Char
  deriving DecidableEq, Repr

def Mark.stop (mark : Mark) : Nat := mark.start + Text.size mark.chars

def isSeparator (c : Char) : Bool :=
  c = ' ' || c = '\t' || c = '\n' || c = '\r' || c = ',' || c = ';' || c = ':' || c = '-'

def isNameChar (c : Char) : Bool := c.isAlphanum || c = '_'

def runLength (p : Char → Bool) (text : List Char) : Nat := (text.takeWhile p).length

def closingLength? (text : List Char) : Option Nat :=
  let blanks := runLength isBlank text
  if (text.drop blanks).head? = some '}' then some (blanks + 1) else none

/-- The length of what follows the first count of bounds: separators and a second count or
an asterisk, if there are any, and the closing brace. -/
def secondCountLength? (text : List Char) : Option Nat :=
  let gap := runLength isCountSeparator text
  let rest := text.drop gap
  let digits := runLength Char.isDigit rest
  if gap ≠ 0 ∧ digits ≠ 0 then
    (closingLength? (rest.drop digits)).map (gap + digits + ·)
  else if gap ≠ 0 ∧ rest.head? = some '*' then
    (closingLength? (rest.drop 1)).map (gap + 1 + ·)
  else closingLength? text

def boundsLength? (text : List Char) : Option Nat :=
  let blanks := runLength isBlank text
  let digits := runLength Char.isDigit (text.drop blanks)
  if digits = 0 then none
  else (secondCountLength? (text.drop (blanks + digits))).map (blanks + digits + ·)

/-- The longest lexeme that starts with a character: its kind, or `none` for a run of
separators, and how many of the characters behind the first belong to it. -/
def lexeme? (first : Char) (rest : List Char) : Option (Option MarkKind × Nat) :=
  if isSeparator first then some (none, runLength isSeparator rest)
  else if first.isAlpha then some (some .name, runLength isNameChar rest)
  else match first with
    | '(' => some (some .opening, 0)
    | ')' => some (some .closing, 0)
    | '|' => some (some .bar, 0)
    | '?' => some (some .optional, 0)
    | '*' => some (some .star, 0)
    | '+' => some (some .plus, 0)
    | '{' => (boundsLength? rest).map fun length => (some .bounds, length)
    | _ => none

def marksFrom (offset : Nat) (text : List Char) : Except Nat (List Mark) :=
  match text with
  | [] => .ok []
  | first :: rest =>
      match lexeme? first rest with
      | none => .error offset
      | some (kind, length) =>
          let chars := first :: rest.take length
          match marksFrom (offset + Text.size chars) (rest.drop length) with
          | .error place => .error place
          | .ok marks =>
              .ok (match kind with
                | none => marks
                | some kind => ⟨kind, offset, chars⟩ :: marks)
termination_by text.length
decreasing_by
  simp only [List.length_drop, List.length_cons]
  omega

def marks (body : List Char) : Except Nat (List Mark) := marksFrom 0 body

end TextGrammar.Notation
