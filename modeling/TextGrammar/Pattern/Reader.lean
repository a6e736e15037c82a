import TextGrammar.Pattern.Reader.Bracket

/-!
Reading a pattern. The text is read from left to right, keeping the branch that is being
read, the branches before it in the same group, and the groups around it. Flags hold from
where they are set to the end of the group, across its branches. Groups only hold things
together: their numbers and names have no effect, but a name may be given once only.
-/

namespace TextGrammar.Pattern.Reader

/-- A group under way: its branches so far, and the parts of the branch being read. A part
is absent where flags were set, which nothing can repeat. -/
structure Branches where
  finished : List Pattern
  parts : List (Option Pattern)

namespace Branches

def start : Branches := ⟨[], []⟩

def push (branches : Branches) (part : Option Pattern) : Branches :=
  { branches with parts := part :: branches.parts }

def branch (branches : Branches) : Pattern :=
  .sequences (branches.parts.reverse.filterMap id)

def nextBranch (branches : Branches) : Branches :=
  ⟨branches.branch :: branches.finished, []⟩

def close (branches : Branches) : Pattern :=
  .choices (branches.branch :: branches.finished).reverse

def repeatLast (branches : Branches) (least : Nat) (most : Option Nat) (greedy : Bool) :
    Option Branches :=
  match branches.parts with
  | some part :: parts =>
      some { branches with parts := some (part.repeated least most greedy) :: parts }
  | _ => none

end Branches

/-- What is read so far: the branches of the innermost group, the flags in force, the
groups around with the flags to go back to, and the names given so far. -/
structure Draft where
  here : Branches
  flags : Flags
  around : List (Branches × Flags)
  names : List (List Char)

def Draft.start : Draft :=
  ⟨.start, ⟨false, false, false, false, false, false⟩, [], []⟩

def Draft.push (draft : Draft) (part : Pattern) : Draft :=
  { draft with here := draft.here.push (some part) }

def Flags.atom (flags : Flags) : Atom → Pattern
  | .char c => .set (CharSet.underCase flags.ignoreCase (.single c))
  | .set members => .set (flags.escapeSet members)
  | .anchor condition => .anchor condition

def Flags.dot (flags : Flags) : CharSet :=
  if flags.dotAll then .any
  else if flags.returns then .complement (.unions [.single '\n', .single '\r'])
  else .complement (.single '\n')

def Flags.caret (flags : Flags) : Anchor :=
  match flags.multiLine, flags.returns with
  | true, true => .returnLineStart
  | true, false => .lineStart
  | false, _ => .textStart

def Flags.dollar (flags : Flags) : Anchor :=
  match flags.multiLine, flags.returns with
  | true, true => .returnLineEnd
  | true, false => .lineEnd
  | false, _ => .textEnd

def Flags.assign? (flags : Flags) (letter : Char) (value : Bool) : Option Flags :=
  match letter with
  | 'i' => some { flags with ignoreCase := value }
  | 'm' => some { flags with multiLine := value }
  | 's' => some { flags with dotAll := value }
  | 'U' => some { flags with swapGreed := value }
  | 'R' => some { flags with returns := value }
  | 'x' => some { flags with spaced := value }
  | 'u' => if value then some flags else none
  | _ => none

/-- Applies flag letters, those behind a dash being cleared. A letter or a dash must not
come twice, and the dash must not come last. -/
def assignFlags (flags : Flags) (value : Bool) (seen : List Char) : List Char → Option Flags
  | [] => if seen.head? = some '-' then none else some flags
  | letter :: rest =>
      if seen.contains letter then none
      else if letter = '-' then assignFlags flags false (letter :: seen) rest
      else (flags.assign? letter value).bind (assignFlags · value (letter :: seen) rest)

def isNameChar (first : Bool) (c : Char) : Bool :=
  c = '_' || Unicode.isAlphabetic c ||
    (!first && (c = '.' || c = '[' || c = ']' || Unicode.isNumeric c))

def isGroupName : List Char → Bool
  | [] => false
  | first :: rest => isNameChar true first && rest.all (isNameChar false)

def Draft.enter (draft : Draft) (flags : Flags) : Draft :=
  { draft with
    here := .start, flags := flags, around := (draft.here, draft.flags) :: draft.around }

def enterNamed (draft : Draft) (text : List Char) : Option (Draft × List Char) :=
  let name := text.takeWhile (· ≠ '>')
  match text.drop name.length with
  | [] => none
  | _ :: left =>
      if isGroupName name && !draft.names.contains name then
        some ({ draft with names := name :: draft.names }.enter draft.flags, left)
      else none

/-- Reads what stands behind an opening parenthesis: the start of a group, or flags for
the rest of the group around. Looking ahead or behind is no pattern. -/
def enterGroup (draft : Draft) (text : List Char) : Option (Draft × List Char) :=
  match skip draft.flags text with
  | '?' :: 'P' :: '<' :: rest => enterNamed draft rest
  | '?' :: '<' :: rest =>
      if rest.head? = some '=' || rest.head? = some '!' then none else enterNamed draft rest
  | '?' :: rest =>
      let letters := rest.takeWhile fun c => c ≠ ':' && c ≠ ')'
      match assignFlags draft.flags true [] letters, rest.drop letters.length with
      | some flags, ':' :: left => some (draft.enter flags, left)
      | some flags, ')' :: left =>
          if letters.isEmpty then none
          else some ({ draft with here := draft.here.push none, flags := flags }, left)
      | _, _ => none
  | text => some (draft.enter draft.flags, text)

def readCount (text : List Char) : Option Nat × List Char :=
  let text := text.dropWhile Unicode.isBlank
  let digits := text.takeWhile Char.isDigit
  let value := Nat.ofDigitChars 10 digits 0
  (if digits.isEmpty || UInt32.size ≤ value then none else some value,
    (text.drop digits.length).dropWhile Unicode.isBlank)

def readBounds (text : List Char) : Option (Nat × Option Nat × List Char) :=
  match readCount text with
  | (some least, '\x7d' :: left) => some (least, some least, left)
  | (some least, ',' :: '\x7d' :: left) => some (least, none, left)
  | (some least, ',' :: rest) =>
      match readCount rest with
      | (some most, '\x7d' :: left) => if least ≤ most then some (least, some most, left) else none
      | _ => none
  | _ => none

def Draft.quantify (draft : Draft) (least : Nat) (most : Option Nat)
    (text : List Char) : Option (Draft × List Char) :=
  let (isLazy, left) := match text with
    | '?' :: rest => (true, rest)
    | _ => (false, text)
  (draft.here.repeatLast least most (isLazy == draft.flags.swapGreed)).map fun here =>
    ({ draft with here := here }, left)

def readPart (draft : Draft) (first : Char) (rest : List Char) :
    Option (Draft × List Char) :=
  match first with
  | '(' => enterGroup draft rest
  | ')' =>
      match draft.around with
      | [] => none
      | (here, flags) :: around =>
          some (({ draft with here := here, flags := flags, around := around }).push
            draft.here.close, rest)
  | '|' => some ({ draft with here := draft.here.nextBranch }, rest)
  | '[' =>
      (readBracket draft.flags rest).map fun (members, left) => (draft.push (.set members), left)
  | '?' => draft.quantify 0 (some 1) rest
  | '*' => draft.quantify 0 none rest
  | '+' => draft.quantify 1 none rest
  | '\x7b' =>
      match readBounds rest with
      | some (least, most, left) => draft.quantify least most left
      | none => none
  | '.' => some (draft.push (.set draft.flags.dot), rest)
  | '^' => some (draft.push (.anchor draft.flags.caret), rest)
  | '$' => some (draft.push (.anchor draft.flags.dollar), rest)
  | '\\' => (readEscape rest).map fun (atom, left) => (draft.push (draft.flags.atom atom), left)
  | c => some (draft.push (draft.flags.atom (.char c)), rest)

/-- Reads to the end of the text, where every group must be closed. `effort` bounds the
number of parts. -/
def readFrom : Nat → Draft → List Char → Option Pattern
  | 0, _, _ => none
  | effort + 1, draft, text =>
      match skip draft.flags text with
      | [] => if draft.around.isEmpty then some draft.here.close else none
      | first :: rest =>
          match readPart draft first rest with
          | some (draft, left) => readFrom effort draft left
          | none => none

end Reader

def ofText? (text : List Char) : Option Pattern :=
  Reader.readFrom (text.length + 1) .start text

end TextGrammar.Pattern
