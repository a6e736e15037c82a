import TextGrammar.Proofs.Scanning.Draining

/-!
Where a scanner stands when draining it has failed. The buffer that could not be cut to its end is
on top, with its cursor at the place, and those below it are as they were. Asked again, the scanner
fails in the same way. A text that is loaded on top of it is cut to its end first, and then the
scanner stands where it stood before.
-/

namespace TextGrammar

section Halts

variable {lexicon : Lexicon} {buffer stuck : Buffer} {buffers below after : List Buffer}
  {lexemes handed : List Lexeme} {error : LexicalError}

theorem Buffer.Halts.place (halts : stuck.Halts lexicon error) :
    error.place? = some (stuck.source, stuck.cursor) := by
  cases halts <;> rfl

theorem Buffer.CutUp.of_rest (cutUp : buffer.CutUp lexicon lexemes) (other : Buffer)
    (same : other.rest = buffer.rest) : ∃ others, other.CutUp lexicon others := by
  obtain ⟨after, cuts, spent, solid⟩ := cutUp
  induction cuts generalizing other with
  | nothing => exact ⟨[], other, .nothing other, same.trans spent, List.forall_mem_nil _⟩
  | @lexeme buffer after id count later more takes _ ih =>
      obtain ⟨first, rest⟩ := List.forall_mem_cons.mp solid
      have taken := (start_lt_stop_iff id takes.le).mp first
      have left : (other.advance count).rest = (buffer.advance count).rest := by
        simp only [advance, same]
      obtain ⟨others, final, cuts, spent, solid⟩ := ih (other.advance count) left spent rest
      rw [← same] at more takes
      refine ⟨_, final, .lexeme more takes cuts, spent, List.forall_mem_cons.mpr ⟨?_, solid⟩⟩
      exact (start_lt_stop_iff id takes.le).mpr taken

theorem Scanner.Drains.empty_of_halts {ignored : List TokenId}
    {result : Except LexicalError (List Lexeme)} (halts : stuck.Halts lexicon error)
    (drains : Drains lexicon ignored (stuck :: below) handed result after) :
    ∀ lexeme ∈ handed, lexeme.isEmpty = true := by
  cases halts with
  | noMatch more none =>
      have next := @nextFrom_of_none lexicon stuck below more none
      cases drains with
      | failed => exact List.forall_mem_nil _
      | done same | empty same | lexeme same => cases next.symm.trans same
  | @emptyLexeme id name more takes named =>
      have next := @nextFrom_of_takes lexicon stuck below id 0 more takes
      have empty := (Buffer.isEmpty_lexeme_iff id takes.le).mpr rfl
      cases drains with
      | empty same =>
          cases next.symm.trans same
          simpa using empty
      | lexeme same solid =>
          cases next.symm.trans same
          exact absurd empty (by simp [solid])
      | done same | failed same => cases next.symm.trans same

/-- Where cutting a stack of buffers breaks off, one of them has been cut to a place where it
halts, those above it to their ends, and those below it not at all. -/
theorem Breaks.split (breaks : Breaks lexicon buffers error after) :
    ∃ above failing stuck below lexemes, buffers = above ++ failing :: below ∧
      after = stuck :: below ∧ (∀ buffer ∈ above, ∃ cut, buffer.CutUp lexicon cut) ∧
      failing.Cuts lexicon lexemes stuck ∧ stuck.Halts lexicon error := by
  induction breaks with
  | @top failing stuck lexemes error below cuts solid halts =>
      exact ⟨[], failing, stuck, below, lexemes, rfl, rfl, List.forall_mem_nil _, cuts, halts⟩
  | @deeper buffer lexemes error below after cutUp _ ih =>
      obtain ⟨above, failing, stuck, rest, cut, rfl, same, ends, cuts, halts⟩ := ih
      exact ⟨buffer :: above, failing, stuck, rest, cut, rfl, same,
        List.forall_mem_cons.mpr ⟨⟨lexemes, cutUp⟩, ends⟩, cuts, halts⟩

theorem Breaks.of_halts (halts : stuck.Halts lexicon error) :
    Breaks lexicon (stuck :: below) error (stuck :: below) :=
  .top (.nothing stuck) (List.forall_mem_nil _) halts

end Halts

namespace Scanner

theorem cutUp_of_tokenize {lexicon : Lexicon} {skip : List String} {text : List Char}
    {lexemes : List Lexeme} (whole : lexicon.tokenize skip text = .ok lexemes) (source : Source)
    (same : source.text = text) : ∃ own, (Buffer.ofSource source).CutUp lexicon own := by
  have drained : (((ofLexicon lexicon).load 0 text).all skip) =
      (.ok lexemes, (((ofLexicon lexicon).load 0 text).all skip).2) := Prod.ext whole rfl
  obtain ⟨-, cuts, all, -⟩ := all_eq_ok_iff.mp drained
  cases all with
  | cons cutUp _ => exact cutUp.of_rest (.ofSource source) same

/-- A scanner that has failed stands at the place that the error tells: the buffer there is on top,
those above it have been cut to their ends, and those below it are as they were. Whatever is to be
ignored, it fails again in the same way and stays as it is. If a text that can be tokenized is
loaded, it is cut to its end, and then the scanner fails again as before. -/
theorem all_failed {scanner left : Scanner} {ignore : List String} {error : LexicalError}
    (failed : scanner.all ignore = (.error error, left)) :
    (∃ above failing stuck below lexemes, scanner.buffers = above ++ failing :: below ∧
      left = { scanner with buffers := stuck :: below } ∧
      (∀ buffer ∈ above, ∃ cut, buffer.CutUp scanner.lexicon cut) ∧
      failing.Cuts scanner.lexicon lexemes stuck ∧ stuck.source = failing.source ∧
      error.place? = some (stuck.source, stuck.cursor)) ∧
    (∀ other, left.all other = (.error error, left)) ∧
    ∀ skip text lexemes, scanner.lexicon.tokenize skip text = .ok lexemes → ∀ serial other,
      (left.load serial text).all other = (.error error, left) ∧
      ∃ top own last, (left.load serial text).buffers = top :: left.buffers ∧ top.Tiled own ∧
        Drains left.lexicon (other.filterMap left.lexicon.id?) (top :: left.buffers) (own ++ last)
          (.error error) left.buffers ∧
        ∀ lexeme ∈ last, lexeme.isEmpty = true := by
  obtain ⟨lexicon, buffers⟩ := scanner
  obtain ⟨after, rfl, breaks⟩ := all_eq_error_iff.mp failed
  obtain ⟨above, failing, stuck, below, lexemes, rfl, rfl, ends, cuts, halts⟩ := breaks.split
  refine ⟨⟨above, failing, stuck, below, lexemes, rfl, rfl, ends, cuts, cuts.source.1,
    halts.place⟩, fun other => ?_, fun skip text lexemes whole serial other => ?_⟩
  · exact all_eq_error_iff.mpr ⟨_, rfl, .of_halts halts⟩
  · let source : Source := ⟨serial, "buff#" ++ toString (stuck :: below).length, text⟩
    obtain ⟨own, cutUp⟩ := cutUp_of_tokenize whole source rfl
    refine ⟨all_eq_error_iff.mpr ⟨_, rfl, .deeper cutUp (.of_halts halts)⟩, ?_⟩
    obtain ⟨last, stops⟩ : ∃ last, Drains lexicon (other.filterMap lexicon.id?) (stuck :: below)
        last (.error error) (stuck :: below) := Drains.of_halts halts
    obtain ⟨spent, cut, done, solid⟩ := id cutUp
    exact ⟨.ofSource source, own, last, rfl, cutUp.tiled,
      .of_cuts cut solid (stops.congr (nextFrom_of_done done)), stops.empty_of_halts halts⟩

/-- There is neither a word nor a blank at the digit. A text that is loaded then is cut all the
same, and the scanner is back at the digit. -/
theorem all_failed_words :
    let loaded := ((ofLexicon words).load 0 "kinds".toList).load 1 "a 1".toList
    ∃ error left, loaded.all [] = (.error error, left) ∧ error.offset? = some 2 ∧
      left.buffers.drop 1 = loaded.buffers.drop 1 ∧ left.all ["blank"] = (.error error, left) ∧
      (left.load 2 "of all".toList).all [] = (.error error, left) := by
  intro loaded
  obtain ⟨error, buffers, failed, offset, below⟩ : ∃ error buffers,
      loaded.all [] = (.error error, ⟨words, buffers⟩) ∧ error.offset? = some 2 ∧
        buffers.drop 1 = loaded.buffers.drop 1 :=
    ⟨_, _, by cbv, by cbv, by cbv⟩
  obtain ⟨lexemes, whole⟩ : ∃ lexemes, words.tokenize [] "of all".toList = .ok lexemes :=
    ⟨_, by cbv⟩
  obtain ⟨-, again, loading⟩ := all_failed failed
  exact ⟨error, _, failed, offset, below, again ["blank"],
    (loading [] "of all".toList lexemes whole 2 []).1⟩

end Scanner

end TextGrammar
