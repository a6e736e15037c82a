import TextGrammar.Pattern.Reader.Escape

/-!
Bracket expressions: characters, ranges, escapes, named ASCII classes and nested brackets
side by side, joined by the set operations `&&`, `--` and `~~`, which bind alike and to
the left. A bracket or dash that stands first stands for itself.
-/

namespace TextGrammar.Pattern.Reader

structure Flags where
  ignoreCase : Bool
  multiLine : Bool
  dotAll : Bool
  swapGreed : Bool
  returns : Bool
  spaced : Bool
  deriving DecidableEq, Repr

def skipComments : Bool → List Char → List Char
  | _, [] => []
  | true, c :: rest => skipComments (c ≠ '\n') rest
  | false, c :: rest =>
      if Unicode.isBlank c then skipComments false rest
      else if c = '#' then skipComments true rest
      else c :: rest

def skip (flags : Flags) (text : List Char) : List Char :=
  if flags.spaced then skipComments false text else text

/-- The set of an escape under the flags in force. Ignoring case comes before the
complement that a capital letter asks for. -/
def Flags.escapeSet (flags : Flags) : CharSet → CharSet
  | .complement members => .complement (members.underCase flags.ignoreCase)
  | members => members.underCase flags.ignoreCase

inductive SetOperation where
  | intersection
  | difference
  | symmetricDifference

def SetOperation.apply : SetOperation → CharSet → CharSet → CharSet
  | intersection => .intersection
  | difference => .difference
  | symmetricDifference => .symmetricDifference

/-- A bracket that is still open: the members read since the last operation, and that
operation with what stands on its left. -/
structure OpenBracket where
  negated : Bool
  members : List CharSet
  pending : Option (SetOperation × CharSet)

namespace OpenBracket

def push (bracket : OpenBracket) (members : CharSet) : OpenBracket :=
  { bracket with members := bracket.members ++ [members] }

def value (ignoreCase : Bool) (bracket : OpenBracket) : CharSet :=
  let members := CharSet.unions bracket.members
  match bracket.pending with
  | none => members
  | some (operation, left) =>
      operation.apply (left.underCase ignoreCase) (members.underCase ignoreCase)

def operate (ignoreCase : Bool) (operation : SetOperation) (bracket : OpenBracket) : OpenBracket :=
  { bracket with members := [], pending := some (operation, bracket.value ignoreCase) }

def close (ignoreCase : Bool) (bracket : OpenBracket) : CharSet :=
  let members := (bracket.value ignoreCase).underCase ignoreCase
  if bracket.negated then .complement members else members

end OpenBracket

def leadingDashes (flags : Flags) : List Char → Nat × List Char
  | '-' :: rest =>
      let (count, left) := leadingDashes flags rest
      (count + 1, left)
  | text => (0, text)

def openBracket (flags : Flags) (text : List Char) : OpenBracket × List Char :=
  let text := skip flags text
  let (negated, text) := match text with
    | '^' :: rest => (true, skip flags rest)
    | _ => (false, text)
  let (dashes, text) := leadingDashes flags text
  let bracket : OpenBracket := ⟨negated, List.replicate dashes (.single '-'), none⟩
  match dashes, text with
  | 0, ']' :: rest => (bracket.push (.single ']'), rest)
  | _, _ => (bracket, text)

def readAsciiClass (text : List Char) : Option (CharSet × List Char) :=
  match text with
  | ':' :: rest =>
      let (negated, rest) := match rest with
        | '^' :: rest => (true, rest)
        | _ => (false, rest)
      let name := rest.takeWhile (· ≠ ':')
      match rest.drop name.length with
      | ':' :: ']' :: left =>
          (asciiClass? name).map fun members =>
            (if negated then .complement members else members, left)
      | _ => none
  | _ => none

def readMember : List Char → Option (Atom × List Char)
  | [] => none
  | '\\' :: rest => readEscape rest
  | c :: rest => some (.char c, rest)

/-- A member of a bracket, or a range of characters where a dash follows that is neither
last nor half of an operation. -/
def readRange (flags : Flags) (text : List Char) : Option (CharSet × List Char) := do
  let (first, rest) ← readMember text
  let rest := skip flags rest
  let single : Option (CharSet × List Char) := match first with
    | .char c => some (.single c, rest)
    | .set members => some (flags.escapeSet members, rest)
    | .anchor _ => none
  match rest with
  | [] => none
  | '-' :: after =>
      match skip flags after with
      | ']' :: _ | '-' :: _ => single
      | after =>
          let (last, left) ← readMember after
          match first, last with
          | .char first, .char last => if first ≤ last then some (.range first last, left) else none
          | _, _ => none
  | _ => single

/-- Reads a bracket expression to the end. `outer` holds the brackets around the one being
read, and `effort` bounds the number of steps. -/
def readBracketFrom (flags : Flags) :
    Nat → List OpenBracket → OpenBracket → List Char → Option (CharSet × List Char)
  | 0, _, _, _ => none
  | effort + 1, outer, bracket, text =>
      match skip flags text with
      | [] => none
      | '[' :: rest =>
          match readAsciiClass rest with
          | some (members, left) => readBracketFrom flags effort outer (bracket.push members) left
          | none =>
              let (inner, left) := openBracket flags rest
              readBracketFrom flags effort (bracket :: outer) inner left
      | ']' :: rest =>
          let members := bracket.close flags.ignoreCase
          match outer with
          | [] => some (members, rest)
          | around :: outer => readBracketFrom flags effort outer (around.push members) rest
      | '&' :: '&' :: rest =>
          readBracketFrom flags effort outer (bracket.operate flags.ignoreCase .intersection) rest
      | '-' :: '-' :: rest =>
          readBracketFrom flags effort outer (bracket.operate flags.ignoreCase .difference) rest
      | '~' :: '~' :: rest =>
          readBracketFrom flags effort outer
            (bracket.operate flags.ignoreCase .symmetricDifference) rest
      | text =>
          match readRange flags text with
          | some (members, left) => readBracketFrom flags effort outer (bracket.push members) left
          | none => none

def readBracket (flags : Flags) (text : List Char) : Option (CharSet × List Char) :=
  let (bracket, left) := openBracket flags text
  readBracketFrom flags (text.length + 1) [] bracket left

end TextGrammar.Pattern.Reader
