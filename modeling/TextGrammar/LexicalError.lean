import TextGrammar.Lexeme

/-!
What can go wrong with token definitions and with cutting a text into lexemes. How an error is
shown in the text that it is about is for a renderer to say.
-/

namespace TextGrammar

/-- What a renderer is to show: a title, and a place in a text with a label. -/
structure Snippet where
  title : String
  origin : String
  text : List Char
  start : Nat
  stop : Nat
  label : String
  deriving DecidableEq, Repr

inductive LexicalError where
  /-- The engine cannot read a pattern, for what it says in its message. -/
  | invalidPattern (name pattern message : String)
  | duplicateToken (name : String)
  | noMatch (source : Source) (offset : Nat)
  /-- The first definition to match takes no text, so cutting cannot go on. -/
  | emptyLexeme (source : Source) (offset : Nat) (token : String)
  deriving DecidableEq, Repr

namespace LexicalError

def message : LexicalError → String
  | invalidPattern name pattern message =>
      s!"token `{name}` has an invalid pattern `{pattern}`: {message}"
  | duplicateToken name => s!"token `{name}` is defined more than once"
  | noMatch source offset => "no token matches " ++ source.name ++ s!" at offset {offset}"
  | emptyLexeme source offset token =>
      s!"token `{token}` matches empty text in " ++ source.name ++ s!" at offset {offset}"

def place? : LexicalError → Option (Source × Nat)
  | noMatch source offset | emptyLexeme source offset _ => some (source, offset)
  | invalidPattern .. | duplicateToken _ => none

def offset? (error : LexicalError) : Option Nat := error.place?.map (·.2)

/-- The character at the place of an error, under the error's message. At the end of a text there
is none to be shown. -/
def snippet? (error : LexicalError) : Option Snippet :=
  error.place?.map fun (source, offset) =>
    let width := ((Text.dropBytes offset source.text).head?.map Char.utf8Size).getD 0
    ⟨error.message, source.name, source.text, offset, offset + width, "unexpected input"⟩

def report (render : Snippet → String) (error : LexicalError) : String :=
  match error.snippet? with
  | none => error.message
  | some snippet => render snippet

end LexicalError

end TextGrammar
