import TextGrammar.Lexicon

/-!
Scanners: a lexicon and a stack of buffers to cut. The buffer loaded last is cut to its
end before the ones below it are gone on with, and nothing is skipped unasked.
-/

namespace TextGrammar

/-- A source that is being cut: `cursor` bytes are done and `rest` is what is left. -/
structure Buffer where
  source : Source
  cursor : Nat
  rest : List Char
  split : ∃ cut, cut ++ rest = source.text ∧ Text.size cut = cursor

namespace Buffer

def ofSource (source : Source) : Buffer := ⟨source, 0, source.text, [], rfl, rfl⟩

def advance (buffer : Buffer) (count : Nat) : Buffer where
  source := buffer.source
  cursor := buffer.cursor + Text.size (buffer.rest.take count)
  rest := buffer.rest.drop count
  split := by
    obtain ⟨cut, whole, total⟩ := buffer.split
    refine ⟨cut ++ buffer.rest.take count, ?_, ?_⟩
    · rw [List.append_assoc, List.take_append_drop, whole]
    · rw [Text.size_append, total]

def lexeme (buffer : Buffer) (id : TokenId) (count : Nat) : Lexeme :=
  ⟨id, buffer.source, buffer.cursor, buffer.cursor + Text.size (buffer.rest.take count)⟩

theorem text_lexeme (buffer : Buffer) (id : TokenId) (count : Nat) :
    (buffer.lexeme id count).text = buffer.rest.take count := by
  obtain ⟨cut, whole, total⟩ := buffer.split
  rw [Lexeme.text, lexeme, ← whole, ← total]
  have := Text.slice_between cut (buffer.rest.take count) (buffer.rest.drop count)
  rwa [List.append_assoc, List.take_append_drop] at this

end Buffer

structure Scanner where
  lexicon : Lexicon
  buffers : List Buffer

namespace Scanner

def ofLexicon (lexicon : Lexicon) : Scanner := ⟨lexicon, []⟩

def load (scanner : Scanner) (serial : Nat) (text : List Char) : Scanner :=
  let name := "buff#" ++ toString scanner.buffers.length
  { scanner with buffers := .ofSource ⟨serial, name, text⟩ :: scanner.buffers }

def depth (scanner : Scanner) : Nat := scanner.buffers.length

/-- Cuts the next lexeme from a stack of buffers. Buffers at their end are taken off; where
nothing matches, the buffer stays as it is. -/
def nextFrom (lexicon : Lexicon) :
    List Buffer → Except LexicalError (Option Lexeme) × List Buffer
  | [] => (.ok none, [])
  | buffer :: below =>
      if buffer.rest.isEmpty then nextFrom lexicon below
      else match lexicon.firstMatch? buffer.rest with
        | none => (.error (.noMatch buffer.source buffer.cursor), buffer :: below)
        | some (id, count) =>
            (.ok (some (buffer.lexeme id count)), buffer.advance count :: below)

def next (scanner : Scanner) : Except LexicalError (Option Lexeme) × Scanner :=
  let (result, buffers) := nextFrom scanner.lexicon scanner.buffers
  (result, { scanner with buffers := buffers })

def remaining : List Buffer → Nat
  | [] => 0
  | buffer :: below => buffer.rest.length + remaining below

/-- Cuts until nothing is left, collecting the lexemes that are not to be ignored.
`effort` bounds the number of lexemes. -/
def drain (lexicon : Lexicon) (ignored : List TokenId) :
    Nat → List Buffer → Except LexicalError (List Lexeme) × List Buffer
  | 0, buffers => (.ok [], buffers)
  | effort + 1, buffers =>
      match nextFrom lexicon buffers with
      | (.error error, buffers) => (.error error, buffers)
      | (.ok none, buffers) => (.ok [], buffers)
      | (.ok (some lexeme), buffers) =>
          if lexeme.isEmpty then
            let name := (lexicon.name? lexeme.id).getD ""
            (.error (.emptyLexeme lexeme.source lexeme.start name), buffers)
          else
            match drain lexicon ignored effort buffers with
            | (.error error, buffers) => (.error error, buffers)
            | (.ok lexemes, buffers) =>
                (.ok (if ignored.contains lexeme.id then lexemes else lexeme :: lexemes), buffers)

/-- All lexemes that are left, without those under one of the names. Names that are not
defined have no effect. -/
def all (scanner : Scanner) (ignore : List String) :
    Except LexicalError (List Lexeme) × Scanner :=
  let ignored := ignore.filterMap scanner.lexicon.id?
  let effort := remaining scanner.buffers + 1
  let (result, buffers) := drain scanner.lexicon ignored effort scanner.buffers
  (result, { scanner with buffers := buffers })

end Scanner

def Lexicon.tokenize (lexicon : Lexicon) (ignore : List String) (text : List Char) :
    Except LexicalError (List Lexeme) :=
  (((Scanner.ofLexicon lexicon).load 0 text).all ignore).1

end TextGrammar
