import Mathlib
import TextGrammar.Proofs.Rules.Resolution
import TextGrammar.Proofs.Scanning.Cutting

/-!
Draining a scanner. Asked for the next lexeme again and again, a scanner comes to the end of its
buffers or to a place where it cannot go on, for each lexeme that is not empty leaves less to be
cut. The buffers are cut one after another, the one on top first, each as if it were alone.
-/

namespace TextGrammar

namespace Buffer

/-- Whether a buffer is cut into some lexemes to its end, none of them empty. -/
def CutUp (lexicon : Lexicon) (buffer : Buffer) (lexemes : List Lexeme) : Prop :=
  ∃ after, buffer.Cuts lexicon lexemes after ∧ after.rest = [] ∧
    ∀ lexeme ∈ lexemes, lexeme.start < lexeme.stop

/-- Whether nothing can be cut from a buffer though it is not at its end, and why: no definition
matches, or the first that does takes nothing. -/
inductive Halts (lexicon : Lexicon) (buffer : Buffer) : LexicalError → Prop where
  | noMatch (more : buffer.rest ≠ [])
      (none : ∀ definition ∈ lexicon.definitions,
        definition.search.length? buffer.rest = none) :
      Halts lexicon buffer (.noMatch buffer.source buffer.cursor)
  | emptyLexeme {id : TokenId} {name : String} (more : buffer.rest ≠ [])
      (takes : lexicon.Takes buffer.rest id 0) (named : lexicon.name? id = some name) :
      Halts lexicon buffer (.emptyLexeme buffer.source buffer.cursor name)

variable {lexicon : Lexicon} {buffer after : Buffer} {lexemes : List Lexeme} {id : TokenId}
  {count : Nat}

theorem start_lt_stop_iff (id : TokenId) (bound : count ≤ buffer.rest.length) :
    (buffer.lexeme id count).start < (buffer.lexeme id count).stop ↔ 0 < count := by
  have empty := isEmpty_lexeme_iff id bound
  have forward : (buffer.lexeme id count).start ≤ (buffer.lexeme id count).stop :=
    Nat.le_add_right _ _
  rw [Lexeme.isEmpty, beq_iff_eq] at empty
  omega

theorem cutUp_or_halts (lexicon : Lexicon) (buffer : Buffer) :
    (∃ lexemes, buffer.CutUp lexicon lexemes) ∨
      ∃ lexemes stuck error, buffer.Cuts lexicon lexemes stuck ∧
        (∀ lexeme ∈ lexemes, lexeme.start < lexeme.stop) ∧ stuck.Halts lexicon error := by
  induction left : buffer.rest.length using Nat.strongRecOn generalizing buffer with
  | ind size ih =>
      by_cases more : buffer.rest = []
      · exact .inl ⟨[], buffer, .nothing buffer, more, List.forall_mem_nil _⟩
      · cases found : lexicon.firstMatch? buffer.rest with
        | none =>
            have none := Lexicon.firstMatch?_eq_none_iff.mp found
            exact .inr ⟨[], buffer, _, .nothing buffer, List.forall_mem_nil _, .noMatch more none⟩
        | some taken =>
            obtain ⟨id, count⟩ := taken
            have takes := Lexicon.firstMatch?_eq_some_iff.mp found
            rcases Nat.eq_zero_or_pos count with rfl | positive
            · obtain ⟨name, named⟩ := takes.named
              exact .inr ⟨[], buffer, _, .nothing buffer, List.forall_mem_nil _,
                .emptyLexeme more takes named⟩
            · -- what is left is shorter, and what is cut here goes in front
              have solid := (start_lt_stop_iff id takes.le).mpr positive
              have shorter : (buffer.advance count).rest.length < size := by
                have bound := takes.le
                simp only [advance, List.length_drop]
                omega
              rcases ih _ shorter (buffer.advance count) rfl with
                ⟨later, after, cuts, done, others⟩ | ⟨later, stuck, error, cuts, others, halts⟩
              · exact .inl ⟨_, after, .lexeme more takes cuts, done,
                  List.forall_mem_cons.mpr ⟨solid, others⟩⟩
              · exact .inr ⟨_, stuck, error, .lexeme more takes cuts,
                  List.forall_mem_cons.mpr ⟨solid, others⟩, halts⟩

end Buffer

/-- Whether cutting a stack of buffers, the one on top first, breaks off with an error, and the
stack at that place. The buffers above have been cut to their ends. -/
inductive Breaks (lexicon : Lexicon) : List Buffer → LexicalError → List Buffer → Prop where
  | top {buffer stuck : Buffer} {lexemes : List Lexeme} {error : LexicalError}
      {below : List Buffer} (cuts : buffer.Cuts lexicon lexemes stuck)
      (solid : ∀ lexeme ∈ lexemes, lexeme.start < lexeme.stop) (halts : stuck.Halts lexicon error) :
      Breaks lexicon (buffer :: below) error (stuck :: below)
  | deeper {buffer : Buffer} {lexemes : List Lexeme} {error : LexicalError}
      {below after : List Buffer} (done : buffer.CutUp lexicon lexemes)
      (breaks : Breaks lexicon below error after) : Breaks lexicon (buffer :: below) error after

theorem cutUp_or_breaks (lexicon : Lexicon) (buffers : List Buffer) :
    (∃ cuts, List.Forall₂ (Buffer.CutUp lexicon) buffers cuts) ∨
      ∃ error after, Breaks lexicon buffers error after := by
  induction buffers with
  | nil => exact .inl ⟨[], .nil⟩
  | cons buffer below ih =>
      rcases buffer.cutUp_or_halts lexicon with
        ⟨lexemes, done⟩ | ⟨lexemes, stuck, error, cuts, solid, halts⟩
      · rcases ih with ⟨cuts, all⟩ | ⟨error, after, breaks⟩
        · exact .inl ⟨lexemes :: cuts, .cons done all⟩
        · exact .inr ⟨error, after, .deeper done breaks⟩
      · exact .inr ⟨error, stuck :: below, .top cuts solid halts⟩

namespace Scanner

def keep (ignored : List TokenId) (lexemes : List Lexeme) : List Lexeme :=
  lexemes.filter fun lexeme => !ignored.contains lexeme.id

/-- Whether asking for the next lexeme until there is none, or one that is empty, or an error,
comes to an end: with these lexemes handed out, this result, and this stack. -/
inductive Drains (lexicon : Lexicon) (ignored : List TokenId) :
    List Buffer → List Lexeme → Except LexicalError (List Lexeme) → List Buffer → Prop where
  | done {buffers after : List Buffer} (next : nextFrom lexicon buffers = (.ok none, after)) :
      Drains lexicon ignored buffers [] (.ok []) after
  | failed {buffers after : List Buffer} {error : LexicalError}
      (next : nextFrom lexicon buffers = (.error error, after)) :
      Drains lexicon ignored buffers [] (.error error) after
  | empty {buffers after : List Buffer} {lexeme : Lexeme}
      (next : nextFrom lexicon buffers = (.ok (some lexeme), after))
      (empty : lexeme.isEmpty = true) :
      Drains lexicon ignored buffers [lexeme]
        (.error (.emptyLexeme lexeme.source lexeme.start
          ((lexicon.name? lexeme.id).getD ""))) after
  | lexeme {buffers between after : List Buffer} {lexeme : Lexeme} {handed : List Lexeme}
      {result : Except LexicalError (List Lexeme)}
      (next : nextFrom lexicon buffers = (.ok (some lexeme), between))
      (solid : lexeme.isEmpty = false)
      (later : Drains lexicon ignored between handed result after) :
      Drains lexicon ignored buffers (lexeme :: handed)
        (result.map (keep ignored [lexeme] ++ ·)) after

theorem keep_cons (ignored : List TokenId) (lexeme : Lexeme) (lexemes : List Lexeme) :
    keep ignored (lexeme :: lexemes) = keep ignored [lexeme] ++ keep ignored lexemes :=
  List.filter_append [lexeme] lexemes

theorem keep_singleton_append (ignored : List TokenId) (lexeme : Lexeme)
    (lexemes : List Lexeme) : keep ignored [lexeme] ++ lexemes =
      if ignored.contains lexeme.id then lexemes else lexeme :: lexemes := by
  rw [keep, List.filter_singleton]
  cases ignored.contains lexeme.id <;> rfl

variable {lexicon : Lexicon} {ignored : List TokenId} {effort count : Nat} {id : TokenId}
  {buffer stuck : Buffer} {buffers below after : List Buffer} {lexeme : Lexeme}
  {lexemes handed : List Lexeme} {error : LexicalError}
  {result : Except LexicalError (List Lexeme)}

theorem Drains.unique (drains : Drains lexicon ignored buffers handed result after)
    {others : List Lexeme} {outcome : Except LexicalError (List Lexeme)} {rest : List Buffer}
    (drainsToo : Drains lexicon ignored buffers others outcome rest) :
    others = handed ∧ outcome = result ∧ rest = after := by
  induction drains generalizing others outcome with
  | done next =>
      cases drainsToo with
      | done same => cases next.symm.trans same; exact ⟨rfl, rfl, rfl⟩
      | failed same | empty same | lexeme same => cases next.symm.trans same
  | failed next =>
      cases drainsToo with
      | failed same => cases next.symm.trans same; exact ⟨rfl, rfl, rfl⟩
      | done same | empty same | lexeme same => cases next.symm.trans same
  | empty next empty =>
      cases drainsToo with
      | empty same => cases next.symm.trans same; exact ⟨rfl, rfl, rfl⟩
      | lexeme same solid => cases next.symm.trans same; simp [empty] at solid
      | done same | failed same => cases next.symm.trans same
  | lexeme next solid _ ih =>
      cases drainsToo with
      | lexeme same _ later =>
          cases next.symm.trans same
          obtain ⟨rfl, rfl, rfl⟩ := ih later
          exact ⟨rfl, rfl, rfl⟩
      | empty same empty => cases next.symm.trans same; simp [empty] at solid
      | done same | failed same => cases next.symm.trans same

theorem Drains.congr {others : List Buffer}
    (same : nextFrom lexicon others = nextFrom lexicon buffers)
    (drains : Drains lexicon ignored buffers handed result after) :
    Drains lexicon ignored others handed result after := by
  cases drains with
  | done next => exact .done (same.trans next)
  | failed next => exact .failed (same.trans next)
  | empty next empty => exact .empty (same.trans next) empty
  | lexeme next solid later => exact .lexeme (same.trans next) solid later

/-- The lexemes that are handed out while buffers are drained, with those that are then ignored
and one that is empty. -/
def handOut (lexicon : Lexicon) : Nat → List Buffer → List Lexeme
  | 0, _ => []
  | effort + 1, buffers =>
      match nextFrom lexicon buffers with
      | (.ok (some lexeme), buffers) =>
          lexeme :: if lexeme.isEmpty then [] else handOut lexicon effort buffers
      | _ => []

theorem drains_drain (enough : remaining buffers < effort) :
    Drains lexicon ignored buffers (handOut lexicon effort buffers)
      (drain lexicon ignored effort buffers).1 (drain lexicon ignored effort buffers).2 := by
  induction effort generalizing buffers with
  | zero => exact absurd enough (Nat.not_lt_zero _)
  | succ effort ih =>
      rw [handOut, drain]
      rcases next : nextFrom lexicon buffers with ⟨_ | _ | lexeme, between⟩
      · exact .failed next
      · exact .done next
      · dsimp only
        cases solid : lexeme.isEmpty with
        | true => exact .empty next solid
        | false =>
            have less := (gives_of_nextFrom next).remaining rfl solid
            have later := ih (Nat.lt_of_lt_of_le less (Nat.le_of_lt_succ enough))
            have drains := Drains.lexeme next solid later
            simp only [Bool.false_eq_true, if_false]
            rcases drained : drain lexicon ignored effort between with ⟨_ | lexemes, rest⟩
            · rw [drained] at drains
              exact drains
            · rw [drained] at drains
              simpa only [Except.map, keep_singleton_append] using drains

theorem drains_all (scanner : Scanner) (ignore : List String) :
    Drains scanner.lexicon (ignore.filterMap scanner.lexicon.id?) scanner.buffers
      (handOut scanner.lexicon (remaining scanner.buffers + 1) scanner.buffers)
      (scanner.all ignore).1 (scanner.all ignore).2.buffers :=
  drains_drain (Nat.lt_succ_self _)

theorem Drains.of_cuts {top : Buffer} (cuts : top.Cuts lexicon lexemes stuck)
    (solid : ∀ lexeme ∈ lexemes, lexeme.start < lexeme.stop)
    (later : Drains lexicon ignored (stuck :: below) handed result after) :
    Drains lexicon ignored (top :: below) (lexemes ++ handed)
      (result.map (keep ignored lexemes ++ ·)) after := by
  induction cuts with
  | nothing => cases result <;> exact later
  | @lexeme top stuck id count others more takes _ ih =>
      obtain ⟨first, rest⟩ := List.forall_mem_cons.mp solid
      have filled : (top.lexeme id count).isEmpty = false := by
        simpa [Lexeme.isEmpty] using Nat.ne_of_lt first
      have drains := Drains.lexeme (nextFrom_of_takes more takes) filled (ih rest later)
      cases result with
      | error => exact drains
      | ok =>
          rw [Except.map, keep_cons, List.append_assoc]
          exact drains

theorem Drains.of_halts (halts : stuck.Halts lexicon error) :
    ∃ handed, Drains lexicon ignored (stuck :: below) handed (.error error) (stuck :: below) := by
  cases halts with
  | noMatch more none => exact ⟨_, .failed (nextFrom_of_none more none)⟩
  | @emptyLexeme id name more takes named =>
      have empty := (Buffer.isEmpty_lexeme_iff id takes.le).mpr rfl
      have drains : Drains lexicon ignored (stuck :: below) _ _ (stuck :: below) :=
        .empty (nextFrom_of_takes more takes) empty
      have called : (lexicon.name? (stuck.lexeme id 0).id).getD "" = name :=
        congrArg (Option.getD · "") named
      rw [called] at drains
      exact ⟨_, drains⟩

theorem Drains.of_cutUp {cuts : List (List Lexeme)}
    (all : List.Forall₂ (Buffer.CutUp lexicon) buffers cuts) :
    Drains lexicon ignored buffers cuts.flatten (.ok (keep ignored cuts.flatten)) [] := by
  induction all with
  | nil => exact .done rfl
  | @cons buffer lexemes below cuts done _ ih =>
      obtain ⟨after, cut, spent, solid⟩ := done
      have drains := Drains.of_cuts cut solid (ih.congr (nextFrom_of_done spent))
      rw [List.flatten_cons, keep, List.filter_append]
      exact drains

theorem Drains.of_breaks (breaks : Breaks lexicon buffers error after) :
    ∃ handed, Drains lexicon ignored buffers handed (.error error) after := by
  induction breaks with
  | top cuts solid halts =>
      obtain ⟨handed, stops⟩ := Drains.of_halts halts
      exact ⟨_, .of_cuts cuts solid stops⟩
  | deeper done _ ih =>
      obtain ⟨handed, later⟩ := ih
      obtain ⟨between, cuts, spent, solid⟩ := done
      exact ⟨_, .of_cuts cuts solid (later.congr (nextFrom_of_done spent))⟩

theorem keep_eq_filter (ignore : List String) (lexemes : List Lexeme) :
    keep (ignore.filterMap lexicon.id?) lexemes =
      lexemes.filter fun lexeme => ignore.all fun name => lexicon.id? name ≠ some lexeme.id := by
  unfold keep
  congr 1
  funext lexeme
  rw [Bool.eq_iff_iff]
  simp

theorem all_eq_iff {scanner left : Scanner} {ignore : List String} :
    scanner.all ignore = (result, left) ↔ left.lexicon = scanner.lexicon ∧
      ∃ handed, Drains scanner.lexicon (ignore.filterMap scanner.lexicon.id?) scanner.buffers
        handed result left.buffers := by
  have drains := drains_all scanner ignore
  constructor
  · intro same
    rw [same] at drains
    exact ⟨(congrArg (·.2.lexicon) same).symm, _, drains⟩
  · rintro ⟨known, handed, other⟩
    obtain ⟨lexicon, buffers⟩ := left
    obtain ⟨-, rfl, rfl⟩ := drains.unique other
    cases known
    rfl

theorem all_eq_ok_iff {scanner left : Scanner} {ignore : List String} :
    scanner.all ignore = (.ok lexemes, left) ↔
      left = { scanner with buffers := [] } ∧
        ∃ cuts, List.Forall₂ (Buffer.CutUp scanner.lexicon) scanner.buffers cuts ∧
          lexemes = cuts.flatten.filter fun lexeme =>
            ignore.all fun name => scanner.lexicon.id? name ≠ some lexeme.id := by
  rw [all_eq_iff]
  constructor
  · rintro ⟨known, handed, drains⟩
    rcases cutUp_or_breaks scanner.lexicon scanner.buffers with
      ⟨cuts, all⟩ | ⟨error, stuck, breaks⟩
    · obtain ⟨-, same, none⟩ := drains.unique (.of_cutUp all)
      cases same
      obtain ⟨lexicon, buffers⟩ := left
      cases known
      cases none
      exact ⟨rfl, cuts, all, keep_eq_filter ignore cuts.flatten⟩
    · obtain ⟨_, broken⟩ := Drains.of_breaks breaks
      cases (drains.unique broken).2.1
  · rintro ⟨rfl, cuts, all, rfl⟩
    rw [← keep_eq_filter]
    exact ⟨rfl, _, .of_cutUp all⟩

theorem all_eq_error_iff {scanner left : Scanner} {ignore : List String} :
    scanner.all ignore = (.error error, left) ↔
      ∃ buffers, left = { scanner with buffers := buffers } ∧
        Breaks scanner.lexicon scanner.buffers error buffers := by
  rw [all_eq_iff]
  constructor
  · rintro ⟨known, handed, drains⟩
    rcases cutUp_or_breaks scanner.lexicon scanner.buffers with
      ⟨cuts, all⟩ | ⟨other, stuck, breaks⟩
    · cases (drains.unique (.of_cutUp all)).2.1
    · obtain ⟨_, broken⟩ := Drains.of_breaks breaks
      obtain ⟨-, same, kept⟩ := drains.unique broken
      cases same
      obtain ⟨lexicon, buffers⟩ := left
      cases known
      exact ⟨stuck, by rw [kept], breaks⟩
  · rintro ⟨buffers, rfl, breaks⟩
    exact ⟨rfl, Drains.of_breaks breaks⟩

end Scanner

/-- Whether lexemes that are not empty take up the rest of a buffer without a gap. -/
structure Buffer.Tiled (buffer : Buffer) (lexemes : List Lexeme) : Prop where
  source : ∀ lexeme ∈ lexemes, lexeme.source = buffer.source
  solid : ∀ lexeme ∈ lexemes, lexeme.start < lexeme.stop
  abut : Abut buffer.cursor buffer.source.size lexemes
  text : lexemes.flatMap (·.text) = buffer.rest

theorem Buffer.CutUp.tiled {lexicon : Lexicon} {buffer : Buffer} {lexemes : List Lexeme}
    (cutUp : buffer.CutUp lexicon lexemes) : buffer.Tiled lexemes := by
  obtain ⟨after, cuts, spent, solid⟩ := cutUp
  have whole := after.size_cut
  rw [spent, Text.size, Nat.add_zero, cuts.source.1] at whole
  exact ⟨cuts.source.2, solid, whole ▸ cuts.abut, by simpa [spent] using cuts.text⟩

namespace Scanner

/-- Draining a scanner comes to an end, whatever its definitions and its buffers are. There is a
result where every buffer can be cut to its end, from the one on top downwards: all that was cut
but for what is to be ignored, and no buffer is left. Otherwise the result is why cutting breaks
off, whatever is to be ignored, and the buffers are left as they are there. -/
theorem all_cuts (scanner : Scanner) (ignore : List String) :
    let kept := fun lexeme : Lexeme =>
      ignore.all fun name => scanner.lexicon.id? name ≠ some lexeme.id
    (∃ handed, Drains scanner.lexicon (ignore.filterMap scanner.lexicon.id?) scanner.buffers
      handed (scanner.all ignore).1 (scanner.all ignore).2.buffers) ∧
    (∀ lexemes left, scanner.all ignore = (.ok lexemes, left) ↔
      left = { scanner with buffers := [] } ∧
        ∃ cuts, List.Forall₂ (Buffer.CutUp scanner.lexicon) scanner.buffers cuts ∧
          lexemes = cuts.flatten.filter kept) ∧
    (∀ error left, scanner.all ignore = (.error error, left) ↔
      ∃ buffers, left = { scanner with buffers := buffers } ∧
        Breaks scanner.lexicon scanner.buffers error buffers) ∧
    (∀ buffer lexemes, Buffer.CutUp scanner.lexicon buffer lexemes → buffer.Tiled lexemes) ∧
    (scanner.lexicon.size ≤ UInt32.size → ∀ lexeme, kept lexeme = true ↔
      ∀ name ∈ ignore, scanner.lexicon.name? lexeme.id ≠ some name) := by
  intro kept
  refine ⟨⟨_, drains_all scanner ignore⟩, fun _ _ => all_eq_ok_iff, fun _ _ => all_eq_error_iff,
    fun _ _ => Buffer.CutUp.tiled, fun few lexeme => ?_⟩
  simp [kept, Lexicon.id?_eq_some_iff few]

def spanning (least : Nat) (kind : Char → Bool) : Search where
  length? text :=
    if least ≤ (text.takeWhile kind).length then some (text.takeWhile kind).length else none
  length?_le := by
    intro text count found
    split at found
    · cases found
      exact (List.takeWhile_prefix kind).length_le
    · cases found

def words : Lexicon where
  definitions := [⟨"word", spanning 1 Char.isLower⟩, ⟨"blank", spanning 0 (· = ' ')⟩]
  distinct := by decide

/-- The text that was loaded last is cut first. Where there is neither a word nor a blank no
text is taken, and what has been cut from the buffers above is lost. -/
theorem all_cuts_words :
    let loaded := fun text => ((ofLexicon words).load 0 text).load 1 "of all".toList
    (∃ lexemes cuts, (loaded "kinds".toList).all ["blank"] = (.ok lexemes, ofLexicon words) ∧
      List.Forall₂ (Buffer.CutUp words) (loaded "kinds".toList).buffers cuts ∧
      lexemes.map (·.text) = ["of".toList, "all".toList, "kinds".toList]) ∧
    ∃ error buffers, (loaded "a 1".toList).all [] = (.error error, ⟨words, buffers⟩) ∧
      error.offset? = some 2 ∧ Breaks words (loaded "a 1".toList).buffers error buffers := by
  intro loaded
  constructor
  · obtain ⟨lexemes, success, texts⟩ : ∃ lexemes,
        (loaded "kinds".toList).all ["blank"] = (.ok lexemes, ofLexicon words) ∧
          lexemes.map (·.text) = ["of".toList, "all".toList, "kinds".toList] :=
      ⟨_, by cbv, by cbv⟩
    obtain ⟨-, cuts, all, same⟩ :=
      ((all_cuts (loaded "kinds".toList) ["blank"]).2.1 lexemes _).mp success
    exact ⟨lexemes, cuts, success, all, texts⟩
  · obtain ⟨error, buffers, failed, offset⟩ : ∃ error buffers,
        (loaded "a 1".toList).all [] = (.error error, ⟨words, buffers⟩) ∧
          error.offset? = some 2 :=
      ⟨_, _, by cbv, by cbv⟩
    obtain ⟨_, same, breaks⟩ :=
      ((all_cuts (loaded "a 1".toList) []).2.2.1 error _).mp failed
    cases same
    exact ⟨error, buffers, failed, offset, breaks⟩

end Scanner

end TextGrammar
