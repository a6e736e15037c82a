import TextGrammar.Id
import TextGrammar.Text.Offset

/-!
Sources and lexemes. A source is a text that was loaded to be cut; a lexeme is a piece of
it under the number of the token definition that cut it.
-/

namespace TextGrammar

/-- A loaded text. The serial number tells sources apart that were loaded at different
times, also where name and text agree. -/
structure Source where
  serial : Nat
  name : String
  text : List Char
  deriving DecidableEq, Repr

def Source.size (source : Source) : Nat := Text.size source.text

/-- A piece of a source, from the offset `start` up to `stop`. Two lexemes are equal only
if they were cut from the very same source. -/
structure Lexeme where
  id : TokenId
  source : Source
  start : Nat
  stop : Nat
  deriving DecidableEq, Repr

namespace Lexeme

def text (lexeme : Lexeme) : List Char :=
  Text.slice lexeme.source.text lexeme.start lexeme.stop

def size (lexeme : Lexeme) : Nat := lexeme.stop - lexeme.start

def isEmpty (lexeme : Lexeme) : Bool := lexeme.start == lexeme.stop

end Lexeme

end TextGrammar
