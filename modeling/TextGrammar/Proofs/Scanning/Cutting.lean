import TextGrammar.Scanner

/-!
Cutting a buffer. A lexeme is what the first definition takes that matches at the cursor, and the
next one begins where it ends. Of searches nothing is used but that what one takes of a text hangs
on that text alone and is a part of it.
-/

namespace TextGrammar

section Definitions

variable {text : List Char} {index found count : Nat} {definitions : List Definition}
  {lexicon : Lexicon} {id : TokenId}

theorem firstMatchFrom_eq_some_iff :
    Lexicon.firstMatchFrom text index definitions = some (found, count) ↔
      ∃ front definition back, definitions = front ++ definition :: back ∧
        found = index + front.length ∧ definition.search.length? text = some count ∧
        ∀ earlier ∈ front, earlier.search.length? text = none := by
  induction definitions generalizing index with
  | nil => simp [Lexicon.firstMatchFrom]
  | cons first rest ih =>
      rw [Lexicon.firstMatchFrom]
      cases matched : first.search.length? text with
      | some length =>
          constructor
          · intro here
            cases here
            exact ⟨[], first, rest, rfl, rfl, matched, List.forall_mem_nil _⟩
          · rintro ⟨_ | ⟨head, front⟩, definition, back, split, rfl, takes, none⟩
            · cases split
              cases matched.symm.trans takes
              rfl
            · cases split
              cases matched.symm.trans (none first List.mem_cons_self)
      | none =>
          dsimp only
          rw [ih]
          constructor
          · rintro ⟨front, definition, back, rfl, rfl, takes, none⟩
            refine ⟨first :: front, definition, back, rfl, ?_, takes, ?_⟩
            · rw [List.length_cons]
              omega
            · exact List.forall_mem_cons.mpr ⟨matched, none⟩
          · rintro ⟨_ | ⟨head, front⟩, definition, back, split, rfl, takes, none⟩
            · cases split
              cases matched.symm.trans takes
            · cases split
              refine ⟨front, definition, back, rfl, ?_, takes, ?_⟩
              · rw [List.length_cons]
                omega
              · exact (List.forall_mem_cons.mp none).2

theorem firstMatchFrom_eq_none_iff :
    Lexicon.firstMatchFrom text index definitions = none ↔
      ∀ definition ∈ definitions, definition.search.length? text = none := by
  induction definitions generalizing index with
  | nil => simp [Lexicon.firstMatchFrom]
  | cons first rest ih =>
      rw [Lexicon.firstMatchFrom, List.forall_mem_cons]
      cases matched : first.search.length? text with
      | some length => simp
      | none => simpa using ih

namespace Lexicon

/-- Whether a definition takes so many characters at the start of a text. It has to match there,
and none in front of it may. -/
def Takes (lexicon : Lexicon) (text : List Char) (id : TokenId) (count : Nat) : Prop :=
  ∃ front definition back, lexicon.definitions = front ++ definition :: back ∧
    id = .ofIndex front.length ∧ definition.search.length? text = some count ∧
    ∀ earlier ∈ front, earlier.search.length? text = none

theorem firstMatch?_eq_some_iff :
    lexicon.firstMatch? text = some (id, count) ↔ lexicon.Takes text id count := by
  rw [firstMatch?, Option.map_eq_some_iff]
  constructor
  · rintro ⟨⟨index, length⟩, here, same⟩
    cases same
    obtain ⟨front, definition, back, split, place, rest⟩ := firstMatchFrom_eq_some_iff.mp here
    exact ⟨front, definition, back, split, by rw [place, Nat.zero_add], rest⟩
  · rintro ⟨front, definition, back, split, rfl, rest⟩
    refine ⟨(front.length, count), firstMatchFrom_eq_some_iff.mpr ?_, rfl⟩
    exact ⟨front, definition, back, split, (Nat.zero_add _).symm, rest⟩

theorem firstMatch?_eq_none_iff :
    lexicon.firstMatch? text = none ↔
      ∀ definition ∈ lexicon.definitions, definition.search.length? text = none := by
  rw [firstMatch?, Option.map_eq_none_iff, firstMatchFrom_eq_none_iff]

theorem Takes.le (takes : lexicon.Takes text id count) : count ≤ text.length :=
  firstMatch?_le (firstMatch?_eq_some_iff.mpr takes)

theorem Takes.named (takes : lexicon.Takes text id count) :
    ∃ name, lexicon.name? id = some name := by
  obtain ⟨front, definition, back, split, rfl, -⟩ := takes
  -- a number of more than 32 bits wraps to a smaller one
  have low : (TokenId.ofIndex front.length).index ≤ front.length := Nat.mod_le _ _
  have inside : (TokenId.ofIndex front.length).index < lexicon.names.length := by
    rw [names, split, List.length_map, List.length_append, List.length_cons]
    omega
  exact ⟨_, List.getElem?_eq_getElem inside⟩

end Lexicon

end Definitions

def Abut (start stop : Nat) : List Lexeme → Prop
  | [] => start = stop
  | lexeme :: rest => lexeme.start = start ∧ Abut lexeme.stop stop rest

namespace Buffer

variable {lexicon : Lexicon} {buffer between after : Buffer} {lexemes later : List Lexeme}
  {id : TokenId} {count : Nat}

theorem size_cut (buffer : Buffer) :
    buffer.cursor + Text.size buffer.rest = buffer.source.size := by
  obtain ⟨cut, whole, total⟩ := buffer.split
  rw [Source.size, ← whole, Text.size_append, total]

theorem isEmpty_lexeme_iff (id : TokenId) (bound : count ≤ buffer.rest.length) :
    (buffer.lexeme id count).isEmpty = true ↔ count = 0 := by
  have nothing := Text.size_eq_zero_iff (buffer.rest.take count)
  rw [List.take_eq_nil_iff] at nothing
  have same : (buffer.lexeme id count).isEmpty = true ↔ Text.size (buffer.rest.take count) = 0 := by
    simp [Lexeme.isEmpty, lexeme]
  rw [same, nothing]
  constructor
  · rintro (none | none)
    · exact none
    · rw [none] at bound
      exact Nat.le_zero.mp bound
  · exact .inl

/-- Whether a buffer becomes another one when some lexemes are cut from it, one after another,
each being what the first definition takes that matches. At the end of a buffer nothing is cut. -/
inductive Cuts (lexicon : Lexicon) : Buffer → List Lexeme → Buffer → Prop where
  | nothing (buffer : Buffer) : Cuts lexicon buffer [] buffer
  | lexeme {buffer after : Buffer} {id : TokenId} {count : Nat} {later : List Lexeme}
      (more : buffer.rest ≠ []) (takes : lexicon.Takes buffer.rest id count)
      (behind : Cuts lexicon (buffer.advance count) later after) :
      Cuts lexicon buffer (buffer.lexeme id count :: later) after

theorem Cuts.append (front : buffer.Cuts lexicon lexemes between)
    (back : between.Cuts lexicon later after) : buffer.Cuts lexicon (lexemes ++ later) after := by
  induction front with
  | nothing => exact back
  | lexeme more takes _ ih => exact .lexeme more takes (ih back)

theorem Cuts.snoc (front : buffer.Cuts lexicon lexemes between) (more : between.rest ≠ [])
    (takes : lexicon.Takes between.rest id count) :
    buffer.Cuts lexicon (lexemes ++ [between.lexeme id count]) (between.advance count) :=
  front.append (.lexeme more takes (.nothing _))

theorem Cuts.source (cuts : buffer.Cuts lexicon lexemes after) :
    after.source = buffer.source ∧ ∀ lexeme ∈ lexemes, lexeme.source = buffer.source := by
  induction cuts with
  | nothing => exact ⟨rfl, List.forall_mem_nil _⟩
  | lexeme more takes _ ih => exact ⟨ih.1, List.forall_mem_cons.mpr ⟨rfl, ih.2⟩⟩

theorem Cuts.abut (cuts : buffer.Cuts lexicon lexemes after) :
    Abut buffer.cursor after.cursor lexemes := by
  induction cuts with
  | nothing => rfl
  | lexeme more takes _ ih => exact ⟨rfl, ih⟩

theorem Cuts.text (cuts : buffer.Cuts lexicon lexemes after) :
    lexemes.flatMap (·.text) ++ after.rest = buffer.rest := by
  induction cuts with
  | nothing => rfl
  | @lexeme buffer after id count later more takes _ ih =>
      rw [List.flatMap_cons, List.append_assoc, ih, text_lexeme]
      exact List.take_append_drop count buffer.rest

end Buffer

namespace Scanner

variable {lexicon : Lexicon} {buffer : Buffer} {below : List Buffer} {id : TokenId} {count : Nat}

theorem nextFrom_of_done (done : buffer.rest = []) :
    nextFrom lexicon (buffer :: below) = nextFrom lexicon below := by
  simp [nextFrom, done]

theorem nextFrom_of_takes (more : buffer.rest ≠ []) (takes : lexicon.Takes buffer.rest id count) :
    nextFrom lexicon (buffer :: below) =
      (.ok (some (buffer.lexeme id count)), buffer.advance count :: below) := by
  simp [nextFrom, more, Lexicon.firstMatch?_eq_some_iff.mpr takes]

theorem nextFrom_of_none (more : buffer.rest ≠ [])
    (none : ∀ definition ∈ lexicon.definitions,
      definition.search.length? buffer.rest = none) :
    nextFrom lexicon (buffer :: below) =
      (.error (.noMatch buffer.source buffer.cursor), buffer :: below) := by
  simp [nextFrom, more, Lexicon.firstMatch?_eq_none_iff.mpr none]

/-- What comes next from a stack of buffers and what is left of them. Buffers at their end are
taken off until there is one with something left, of which a lexeme is cut if a definition
matches. -/
inductive Gives (lexicon : Lexicon) :
    List Buffer → Except LexicalError (Option Lexeme) → List Buffer → Prop where
  | nothing : Gives lexicon [] (.ok none) []
  | done {buffer : Buffer} {below after : List Buffer}
      {result : Except LexicalError (Option Lexeme)} (done : buffer.rest = [])
      (gives : Gives lexicon below result after) : Gives lexicon (buffer :: below) result after
  | lexeme {buffer : Buffer} {below : List Buffer} {id : TokenId} {count : Nat}
      (more : buffer.rest ≠ []) (takes : lexicon.Takes buffer.rest id count) :
      Gives lexicon (buffer :: below) (.ok (some (buffer.lexeme id count)))
        (buffer.advance count :: below)
  | noMatch {buffer : Buffer} {below : List Buffer} (more : buffer.rest ≠ [])
      (none : ∀ definition ∈ lexicon.definitions,
        definition.search.length? buffer.rest = none) :
      Gives lexicon (buffer :: below) (.error (.noMatch buffer.source buffer.cursor))
        (buffer :: below)

theorem gives_nextFrom (lexicon : Lexicon) (buffers : List Buffer) :
    Gives lexicon buffers (nextFrom lexicon buffers).1 (nextFrom lexicon buffers).2 := by
  induction buffers with
  | nil => exact .nothing
  | cons buffer below ih =>
      by_cases more : buffer.rest = []
      · rw [nextFrom_of_done more]
        exact .done more ih
      · cases found : lexicon.firstMatch? buffer.rest with
        | none =>
            have none := Lexicon.firstMatch?_eq_none_iff.mp found
            rw [nextFrom_of_none more none]
            exact .noMatch more none
        | some taken =>
            have takes := Lexicon.firstMatch?_eq_some_iff.mp found
            rw [nextFrom_of_takes more takes]
            exact .lexeme more takes

variable {buffers after : List Buffer} {lexeme : Lexeme}
  {result : Except LexicalError (Option Lexeme)}

theorem gives_of_nextFrom (next : nextFrom lexicon buffers = (result, after)) :
    Gives lexicon buffers result after := by
  have gives := gives_nextFrom lexicon buffers
  rwa [next] at gives

theorem Gives.named (gives : Gives lexicon buffers result after)
    (some : result = .ok (some lexeme)) : ∃ name, lexicon.name? lexeme.id = .some name := by
  induction gives with
  | nothing | noMatch => cases some
  | done _ _ ih => exact ih some
  | lexeme more takes =>
      cases some
      exact takes.named

theorem Gives.exhausted (gives : Gives lexicon buffers result after)
    (none : result = .ok none) : ∀ buffer ∈ buffers, buffer.rest = [] := by
  induction gives with
  | nothing => exact List.forall_mem_nil _
  | done done _ ih => exact List.forall_mem_cons.mpr ⟨done, ih none⟩
  | lexeme | noMatch => cases none

theorem Gives.remaining (gives : Gives lexicon buffers result after)
    (some : result = .ok (some lexeme)) (solid : lexeme.isEmpty = false) :
    remaining after < remaining buffers := by
  induction gives with
  | nothing | noMatch => cases some
  | done _ _ ih => exact Nat.lt_of_lt_of_le (ih some) (Nat.le_add_left _ _)
  | @lexeme buffer below id count more takes =>
      cases some
      have positive : count ≠ 0 := by
        rw [ne_eq, ← Buffer.isEmpty_lexeme_iff id takes.le, solid]
        exact Bool.false_ne_true
      have bound := takes.le
      simp only [Scanner.remaining, Buffer.advance, List.length_drop]
      omega

end Scanner

end TextGrammar
