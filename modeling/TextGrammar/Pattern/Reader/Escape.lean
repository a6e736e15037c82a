import TextGrammar.Pattern.Basic
import TextGrammar.Pattern.Reader.PropertyName

/-!
Escapes: a backslash and what it makes of the characters after it. Every reading function
takes the text from where it starts and gives back what is left of it; `none` means that
the text is no pattern.
-/

namespace TextGrammar.Pattern.Reader

inductive Atom where
  | char (c : Char)
  | set (members : CharSet)
  | anchor (condition : Anchor)

def isMeta (c : Char) : Bool :=
  "\\.+*?()|[]\x7b\x7d^$#&-~".toList.contains c

/-- Whether a backslash leaves a character as it is: any ASCII character but letters,
digits and angle brackets. -/
def isPlainEscape (c : Char) : Bool :=
  isMeta c || (c.toNat < 128 && !c.isAlphanum && c ≠ '<' && c ≠ '>')

def isHexDigit (c : Char) : Bool :=
  c.isDigit || ('a' ≤ c && c ≤ 'f') || ('A' ≤ c && c ≤ 'F')

def charOfHex? (digits : List Char) : Option Char :=
  if digits.isEmpty || !digits.all isHexDigit then none
  else
    let code := Unicode.ofHexDigits digits
    if code.isValidChar then some (Char.ofNat code) else none

def readCodePoint (count : Nat) : List Char → Option (Char × List Char)
  | '\x7b' :: rest =>
      let digits := rest.takeWhile (· ≠ '\x7d')
      match rest.drop digits.length with
      | _ :: left => (charOfHex? digits).map (·, left)
      | [] => none
  | text =>
      if text.length < count then none
      else (charOfHex? (text.take count)).map (·, text.drop count)

def readProperty (negated : Bool) : List Char → Option (CharSet × List Char)
  | '\x7b' :: rest =>
      let name := rest.takeWhile (· ≠ '\x7d')
      match rest.drop name.length with
      | _ :: left => (propertySet? name).map (signed ·, left)
      | [] => none
  | '\\' :: _ => none
  | letter :: rest => (propertySet? [letter]).map (signed ·, rest)
  | [] => none
where
  signed (members : CharSet) : CharSet := if negated then .complement members else members

/-- A word boundary, which a name in braces can narrow down. Braces that do not begin with
a letter or a dash are left to be read as a count. -/
def readBoundary : List Char → Option (Anchor × List Char)
  | '\x7b' :: rest =>
      match rest with
      | [] => none
      | first :: _ =>
          if first.isAlpha || first = '-' then
            let name := rest.takeWhile fun c => c.isAlpha || c = '-'
            match String.ofList name, rest.drop name.length with
            | "start", '\x7d' :: left => some (.wordStart, left)
            | "end", '\x7d' :: left => some (.wordEnd, left)
            | "start-half", '\x7d' :: left => some (.wordStartHalf, left)
            | "end-half", '\x7d' :: left => some (.wordEndHalf, left)
            | _, _ => none
          else some (.wordBoundary, '\x7b' :: rest)
  | text => some (.wordBoundary, text)

def readEscape : List Char → Option (Atom × List Char)
  | [] => none
  | c :: rest =>
      match c with
      | 'x' => (readCodePoint 2 rest).map fun (d, left) => (.char d, left)
      | 'u' => (readCodePoint 4 rest).map fun (d, left) => (.char d, left)
      | 'U' => (readCodePoint 8 rest).map fun (d, left) => (.char d, left)
      | 'p' => (readProperty false rest).map fun (members, left) => (.set members, left)
      | 'P' => (readProperty true rest).map fun (members, left) => (.set members, left)
      | 'd' => some (.set (.property .decimalDigit), rest)
      | 's' => some (.set (.property .blank), rest)
      | 'w' => some (.set (.property .word), rest)
      | 'D' => some (.set (.complement (.property .decimalDigit)), rest)
      | 'S' => some (.set (.complement (.property .blank)), rest)
      | 'W' => some (.set (.complement (.property .word)), rest)
      | 'a' => some (.char '\x07', rest)
      | 'f' => some (.char '\x0c', rest)
      | 't' => some (.char '\t', rest)
      | 'n' => some (.char '\n', rest)
      | 'r' => some (.char '\r', rest)
      | 'v' => some (.char '\x0b', rest)
      | 'A' => some (.anchor .textStart, rest)
      | 'z' => some (.anchor .textEnd, rest)
      | 'b' => (readBoundary rest).map fun (condition, left) => (.anchor condition, left)
      | 'B' => some (.anchor .noWordBoundary, rest)
      | '<' => some (.anchor .wordStart, rest)
      | '>' => some (.anchor .wordEnd, rest)
      | _ => if isPlainEscape c then some (.char c, rest) else none

end TextGrammar.Pattern.Reader
