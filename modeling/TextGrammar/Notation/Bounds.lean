import TextGrammar.Text.Fields

/-!
How often a part of a rule may be repeated, and how the bounds are read from text such as
`{2}`, `{2,4}` or `{1 *}`.
-/

namespace TextGrammar.Notation

def isBlank (c : Char) : Bool := c = ' ' || c = '\t'

def isCountSeparator (c : Char) : Bool := isBlank c || c = ':' || c = ',' || c = '-'

structure Bounds where
  least : UInt32
  most : Option UInt32
  deriving DecidableEq, Repr

namespace Bounds

def isProper (bounds : Bounds) : Bool := bounds.most.all (bounds.least ≤ ·)

def allowsMore (bounds : Bounds) (count : Nat) : Bool :=
  bounds.most.all fun most => count < most.toNat

def ofDigits (digits : List Char) : Nat :=
  digits.foldl (fun value c => 10 * value + (c.toNat - 48)) 0

/-- A count: ASCII digits, with a plus sign in front allowed, that fit in 32 bits. -/
def count? (text : List Char) : Option UInt32 :=
  let digits := match text with
    | '+' :: rest => rest
    | _ => text
  if digits.isEmpty || !digits.all Char.isDigit then none
  else if ofDigits digits < UInt32.size then some (UInt32.ofNat (ofDigits digits))
  else none

/-- Reads bounds from text in braces: the first count is the lower bound, and the second
one, or an asterisk, the upper. A single count is both, and more than two are not read. -/
def ofText? (text : List Char) : Option Bounds :=
  match text with
  | '{' :: rest =>
      if rest.getLast? = some '}' then
        match Text.fields isCountSeparator rest.dropLast with
        | [] => none
        | [only] => (count? only).map fun least => ⟨least, some least⟩
        | first :: second :: _ =>
            match count? first with
            | none => none
            | some least =>
                if second = ['*'] then some ⟨least, none⟩
                else (count? second).map fun most => ⟨least, some most⟩
      else none
  | _ => none

def text (bounds : Bounds) : String :=
  match bounds.most with
  | some most => toString bounds.least.toNat ++ " " ++ toString most.toNat
  | none => toString bounds.least.toNat ++ " *"

end Bounds

end TextGrammar.Notation
