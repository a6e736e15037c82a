import TextGrammar.LexicalError
import TextGrammar.Unicode.Columns

/-!
A renderer: an excerpt of a text that points at one of its characters, with a title, the place,
the line with its number, and carets below the character. A line break in the middle of a text
belongs to two lines, and then both are shown, joined by a bar.
-/

namespace TextGrammar.Text

/-- A line of a text: its characters without the line break, and the offsets at which it
starts and at which the next one does. -/
structure Line where
  number : Nat
  start : Nat
  stop : Nat
  chars : List Char
  deriving DecidableEq, Repr

/-- A line as read, from its characters in reverse: a carriage return before the line feed
belongs to the break. -/
def Line.ofReverse (number start stop : Nat) (broken : Bool) (chars : List Char) : Line :=
  match broken, chars with
  | true, '\r' :: rest => ⟨number, start, stop, rest.reverse⟩
  | _, chars => ⟨number, start, stop, chars.reverse⟩

/-- The lines of a text from a given one on, `seen` being the start of that line in
reverse. A text that ends in a line feed has no further line after it. -/
def linesFrom (number start offset : Nat) (seen : List Char) : List Char → List Line
  | [] => if seen.isEmpty then [] else [.ofReverse number start offset false seen]
  | c :: rest =>
      let next := offset + c.utf8Size
      if c = '\n' then
        .ofReverse number start next true seen :: linesFrom (number + 1) next next [] rest
      else linesFrom number start next (c :: seen) rest

def lines (text : List Char) : List Line :=
  linesFrom 1 0 0 [] text

/-- What is shown for a character. A tab becomes four blanks, other controls their
pictures, and marks that would reorder the line a replacement character. -/
def shownChar (c : Char) : List Char :=
  if c = '\t' then [' ', ' ', ' ', ' ']
  else if c.toNat < 32 then [Char.ofNat (0x2400 + c.toNat)]
  else if c.toNat = 127 then [Char.ofNat 0x2421]
  else if c.toNat = 0x200D then []
  else if (0x202A ≤ c.toNat ∧ c.toNat ≤ 0x202E) ∨ (0x2066 ≤ c.toNat ∧ c.toNat ≤ 0x2069) then
    [Char.ofNat 0xFFFD]
  else [c]

def shownColumns (c : Char) : Nat :=
  if c = '\t' then 4
  else if (0x202A ≤ c.toNat ∧ c.toNat ≤ 0x202E) ∨ (0x2066 ≤ c.toNat ∧ c.toNat ≤ 0x2069) then 1
  else Unicode.columns c

def shownWidth : List Char → Nat
  | [] => 0
  | c :: rest => shownColumns c + shownWidth rest

def Line.before (line : Line) (offset : Nat) : List Char :=
  takeBytes (offset - line.start) line.chars

/-- The display column of an offset, counted from zero. An offset in the line break stands
at the end of the line. -/
def Line.displayColumn (line : Line) (offset : Nat) : Nat :=
  shownWidth (line.before offset)

/-- The column of an offset in characters, counted from one. The second character of a
line break has a column of its own. -/
def Line.column (line : Line) (offset : Nat) : Nat :=
  (line.before offset).length + 1 +
    if line.start + size line.chars < offset then 1 else 0

def lineAt (offset : Nat) : List Line → Option (Line × Option Line)
  | [] => none
  | line :: rest => if offset < line.stop then some (line, rest.head?) else lineAt offset rest

def blanks (count : Nat) : List Char := List.replicate count ' '

def numberedRow (width : Nat) (line : Line) (mark : List Char) : List Char :=
  let number := Nat.toDigits 10 line.number
  let shown := line.chars.flatMap shownChar
  blanks (width - number.length) ++ number ++ [' ', '|'] ++
    (if shown.isEmpty then
      (mark.reverse.dropWhile (· = ' ')).reverse
    else mark ++ shown)

def sideRow (width : Nat) (content : List Char) : List Char :=
  blanks width ++ [' ', '|'] ++ content

def pointerRows (width : Nat) (label : List Char) (line : Line) (next : Option Line)
    (offset stop : Nat) : List (List Char) :=
  let start := line.displayColumn offset
  match (if line.stop ≤ stop then next else none) with
  | none =>
      let carets := max 1 (line.displayColumn stop - start)
      [numberedRow width line [' '],
        sideRow width (' ' :: blanks start ++ List.replicate carets '^' ++ ' ' :: label)]
  | some next =>
      let closing := sideRow width ([' ', '|', '_', '^', ' '] ++ label)
      if (line.chars.take start).all Unicode.isBlank then
        [numberedRow width line [' ', '/', ' '], numberedRow width next [' ', '|', ' '], closing]
      else
        [numberedRow width line [' ', ' ', ' '],
          sideRow width ([' ', ' '] ++ List.replicate (start + 1) '_' ++ ['^']),
          numberedRow width next [' ', '|', ' '], closing]

def lastShownLine (line : Line) (next : Option Line) (stop : Nat) : Nat :=
  match next with
  | some next => if line.stop ≤ stop then next.number else line.number
  | none => line.number

/-- The rows of an excerpt that points at the one character of a snippet. An offset past the end
of the text leaves the title alone. -/
def excerpt (snippet : Snippet) : List (List Char) :=
  let heading := "error: ".toList ++ snippet.title.toList
  match lineAt snippet.start (lines snippet.text) with
  | none => [heading]
  | some (line, next) =>
      let width := (Nat.toDigits 10 (lastShownLine line next snippet.stop)).length
      [heading,
        blanks width ++ "--> ".toList ++ snippet.origin.toList ++
          ':' :: Nat.toDigits 10 line.number ++
          ':' :: Nat.toDigits 10 (line.column snippet.start),
        sideRow width []] ++
      pointerRows width snippet.label.toList line next snippet.start snippet.stop

def render (snippet : Snippet) : String :=
  String.intercalate "\n" ((excerpt snippet).map String.ofList)

end TextGrammar.Text
