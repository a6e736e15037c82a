import TextGrammar.Engine
import TextGrammar.Fault
import TextGrammar.LexicalError

/-!
Lexicons: token definitions in order, each a name and the search of a pattern, which an engine
reads. Where several patterns match, the definition declared first wins, whatever the lengths of
the matches.
-/

namespace TextGrammar

structure Definition where
  name : String
  search : Search

structure Lexicon where
  definitions : List Definition
  distinct : (definitions.map (·.name)).Nodup

namespace Lexicon

def empty : Lexicon := ⟨[], List.nodup_nil⟩

def names (lexicon : Lexicon) : List String := lexicon.definitions.map (·.name)

def size (lexicon : Lexicon) : Nat := lexicon.definitions.length

/-- Adds a definition behind the others. That the name is new is checked before the
pattern is read. -/
def define (lexicon : Lexicon) (engine : Engine) (name pattern : String) :
    Except LexicalError Lexicon :=
  if taken : name ∈ lexicon.names then .error (.duplicateToken name)
  else match engine pattern with
    | .error message => .error (.invalidPattern name pattern message)
    | .ok search => .ok
        { definitions := lexicon.definitions ++ [⟨name, search⟩]
          distinct := by
            rw [List.map_append, List.map_singleton]
            refine List.nodup_append.2 ⟨lexicon.distinct, by simp, ?_⟩
            intro left member right last same
            rw [same, List.mem_singleton.1 last] at member
            exact taken member }

def ofDefinitions (engine : Engine) (definitions : List (String × String)) :
    Except LexicalError Lexicon :=
  definitions.foldlM (fun lexicon (name, pattern) => lexicon.define engine name pattern) empty

def id? (lexicon : Lexicon) (name : String) : Option TokenId :=
  (lexicon.names.idxOf? name).map TokenId.ofIndex

def name? (lexicon : Lexicon) (id : TokenId) : Option String := lexicon.names[id.index]?

def nameOf (lexicon : Lexicon) (id : TokenId) : Except Fault String :=
  match lexicon.name? id with
  | some name => .ok name
  | none => .error (.tokenOutOfRange id)

/-- The position of the first definition that matches at the start of a text, and how many
characters it takes. `index` is the position of the first one asked. -/
def firstMatchFrom (text : List Char) (index : Nat) : List Definition → Option (Nat × Nat)
  | [] => none
  | definition :: rest =>
      match definition.search.length? text with
      | some count => some (index, count)
      | none => firstMatchFrom text (index + 1) rest

def firstMatch? (lexicon : Lexicon) (text : List Char) : Option (TokenId × Nat) :=
  (firstMatchFrom text 0 lexicon.definitions).map fun (index, count) => (.ofIndex index, count)

theorem firstMatchFrom_le {text : List Char} {index : Nat} {definitions : List Definition}
    {found count : Nat} (here : firstMatchFrom text index definitions = some (found, count)) :
    count ≤ text.length := by
  induction definitions generalizing index with
  | nil => cases here
  | cons definition rest ih =>
      simp only [firstMatchFrom] at here
      split at here
      · next length matched =>
          cases here
          exact definition.search.length?_le matched
      · exact ih here

theorem firstMatch?_le {lexicon : Lexicon} {text : List Char} {id : TokenId} {count : Nat}
    (here : lexicon.firstMatch? text = some (id, count)) : count ≤ text.length := by
  simp only [firstMatch?, Option.map_eq_some_iff] at here
  obtain ⟨⟨index, length⟩, found, same⟩ := here
  cases same
  exact firstMatchFrom_le found

end Lexicon

end TextGrammar
