import TextGrammar.Proofs.Notation.Moving
import TextGrammar.Proofs.Notation.Spelling
import TextGrammar.Proofs.Notation.Violations

/-!
Separators mean nothing. Between the marks of a body there may be any separators, and none where
two marks do not run together: the same marks are cut, and what they say is the same. Bodies with
separators between them are cut as each is cut alone.
-/

namespace TextGrammar.Notation

/-- Whether a text behind an offset is some marks with separators in front of them and behind the
last, a name not being gone on with. -/
inductive Spaced : Nat → List Char → List Mark → Prop where
  | last {offset : Nat} {gap : List Char} (parts : ∀ c ∈ gap, isSeparator c = true) :
      Spaced offset gap []
  | mark {offset : Nat} {gap rest : List Char} {mark : Mark} {read : List Mark}
      (parts : ∀ c ∈ gap, isSeparator c = true) (start : mark.start = offset + Text.size gap)
      (spells : Spells (some mark.kind) mark.chars)
      (ends : mark.kind = .name → ∀ c ∈ rest.head?, isNameChar c = false)
      (later : Spaced mark.stop rest read) :
      Spaced offset (gap ++ (mark.chars ++ rest)) (mark :: read)

def spaced (gap : Nat → List Char) : List Mark → List Char
  | [] => gap 0
  | mark :: read => gap 0 ++ (mark.chars ++ spaced (fun place => gap (place + 1)) read)

structure Parting (gap : Nat → List Char) (read : List Mark) : Prop where
  parts : ∀ place, ∀ c ∈ gap place, isSeparator c = true
  names : ∀ place mark next, read[place]? = some mark → read[place + 1]? = some next →
    mark.kind = .name → next.kind = .name → gap (place + 1) ≠ []

section Cut

variable {offset : Nat} {text rest gap : List Char}

theorem drop_runLength (p : Char → Bool) (text : List Char) :
    text.drop (runLength p text) = text.dropWhile p := by
  have parted := @List.takeWhile_append_dropWhile _ p text
  have dropped := congrArg (List.drop (runLength p text)) parted
  rw [← dropped, runLength, List.drop_left]

theorem marksFrom_skip (offset : Nat) (text : List Char) :
    marksFrom offset text = marksFrom (offset + Text.size (text.takeWhile isSeparator))
      (text.dropWhile isSeparator) := by
  cases text with
  | nil => rfl
  | cons first rest =>
      by_cases separator : isSeparator first = true
      · have found : lexeme? first rest = some (none, runLength isSeparator rest) := by
          simp only [lexeme?, separator, ↓reduceIte]
        rw [marksFrom, found]
        simp only [take_runLength, drop_runLength, List.takeWhile_cons, List.dropWhile_cons,
          separator, ↓reduceIte]
        cases marksFrom _ (rest.dropWhile isSeparator) <;> rfl
      · simp [separator, Text.size]

theorem marksFrom_gap (parts : ∀ c ∈ gap, isSeparator c = true) (offset : Nat)
    (rest : List Char) :
    marksFrom offset (gap ++ rest) = marksFrom (offset + Text.size gap) rest := by
  rw [marksFrom_skip offset, marksFrom_skip _ rest, List.takeWhile_append_of_pos parts,
    List.dropWhile_append_of_pos parts, Text.size_append, Nat.add_assoc]

theorem Spells.lexeme?_eq {kind : MarkKind} {first : Char} {front : List Char}
    (spells : Spells (some kind) (first :: front))
    (ends : kind = .name → ∀ c ∈ rest.head?, isNameChar c = false) :
    lexeme? first (front ++ rest) = some (some kind, front.length) := by
  cases spells with
  | name letter more =>
      simp only [lexeme?, letter, isSeparator_of_isAlpha letter, ↓reduceIte, Bool.false_eq_true,
        runLength_append more (ends rfl)]
  | bounds written =>
      obtain ⟨inner, same⟩ := written.brace
      cases same
      rw [lexeme?, written.boundsLength?_append rest]
      rfl
  | opening | closing | bar | optional | star | plus => rfl

theorem Spells.marksFrom_append {kind : MarkKind} {chars : List Char}
    (spells : Spells (some kind) chars)
    (ends : kind = .name → ∀ c ∈ rest.head?, isNameChar c = false) (offset : Nat) :
    marksFrom offset (chars ++ rest) =
      (marksFrom (offset + Text.size chars) rest).map (⟨kind, offset, chars⟩ :: ·) := by
  obtain ⟨first, front, rfl⟩ := List.exists_cons_of_ne_nil spells.filled
  rw [List.cons_append, marksFrom, spells.lexeme?_eq ends]
  simp only [List.take_left, List.drop_left]
  cases marksFrom _ rest <;> rfl

theorem Spells.head_append {kind : MarkKind} {chars : List Char}
    (spells : Spells (some kind) chars) (rest : List Char) :
    ∀ c ∈ (chars ++ rest).head?, isNameChar c = true ↔ kind = .name := by
  cases spells with
  | name letter more => simp [isNameChar, Char.isAlphanum, letter]
  | bounds written =>
      obtain ⟨inner, rfl⟩ := written.brace
      simp
      decide
  | opening | closing | bar | optional | star | plus => simp; decide

theorem Spells.head_spaced {next : Mark} {gap : Nat → List Char}
    (spells : Spells (some next.kind) next.chars) (others : List Mark) (none : gap 0 = []) :
    ∀ c ∈ (spaced gap (next :: others)).head?, isNameChar c = true ↔ next.kind = .name := by
  rw [spaced, none, List.nil_append]
  exact spells.head_append _

theorem not_isNameChar_of_isSeparator {c : Char} (separator : isSeparator c = true) :
    isNameChar c = false := by
  have other := of_isSeparator (p := fun c => !isNameChar c) (by decide) separator
  simpa using other

end Cut

namespace Spaced

variable {offset : Nat} {text : List Char} {read : List Mark} {gap : List Char}

theorem prepend (spaced : Spaced (offset + Text.size gap) text read)
    (parts : ∀ c ∈ gap, isSeparator c = true) : Spaced offset (gap ++ text) read := by
  have both : ∀ {more : List Char}, (∀ c ∈ more, isSeparator c = true) →
      ∀ c ∈ gap ++ more, isSeparator c = true :=
    fun others => List.forall_mem_append.mpr ⟨parts, others⟩
  cases spaced with
  | last partsToo => exact .last (both partsToo)
  | mark partsToo start spells ends later =>
      rw [← List.append_assoc]
      refine .mark (both partsToo) ?_ spells ends later
      rw [start, Text.size_append, Nat.add_assoc]

theorem marksFrom_eq (spaced : Spaced offset text read) : marksFrom offset text = .ok read := by
  induction spaced with
  | @last offset gap parts =>
      have skipped := marksFrom_gap parts offset []
      rwa [List.append_nil, marksFrom] at skipped
  | @mark offset gap rest mark read parts start spells ends later ih =>
      rw [marksFrom_gap parts, spells.marksFrom_append ends, ← start]
      rw [Mark.stop] at ih
      rw [ih]
      rfl

end Spaced

theorem Pieces.spaced {pieces : List Piece} {text rest : List Char}
    (cut : Pieces pieces text rest) (whole : rest = []) (offset : Nat) :
    Spaced offset text (marksOf offset pieces) := by
  induction cut generalizing offset with
  | done => exact .last (whole ▸ List.forall_mem_nil _)
  | @next piece pieces text rest longest onward ih =>
      obtain ⟨kind, chars⟩ := piece
      cases kind with
      | none =>
          cases longest.spells with
          | separators _ part => exact (ih whole _).prepend part
      | some kind =>
          have ends : kind = .name → ∀ c ∈ text.head?, isNameChar c = false := by
            rintro rfl
            exact longest.name_ends
          exact @Spaced.mark offset [] text ⟨kind, offset, chars⟩ _ (List.forall_mem_nil _) rfl
            longest.spells ends (ih whole _)

theorem marks_eq_ok_iff_spaced (body : List Char) (read : List Mark) :
    marks body = .ok read ↔ Spaced 0 body read := by
  refine ⟨fun cut => ?_, Spaced.marksFrom_eq⟩
  obtain ⟨pieces, whole, rfl⟩ := (marks_eq_ok_iff body read).mp cut
  exact whole.spaced rfl 0

namespace Spaced

variable {offset : Nat} {text other : List Char} {read readToo : List Mark} {gap : List Char}

/-- Separators between two texts keep them apart, whatever the first one ends with. -/
theorem append (spaced : Spaced offset text read) (some : gap ≠ [])
    (parts : ∀ c ∈ gap, isSeparator c = true)
    (later : Spaced (offset + Text.size (text ++ gap)) other readToo) :
    Spaced offset (text ++ gap ++ other) (read ++ readToo) := by
  induction spaced with
  | last partsToo => exact later.prepend (List.forall_mem_append.mpr ⟨partsToo, parts⟩)
  | @mark offset front rest mark read partsToo start spells ends _ ih =>
      have apart : mark.kind = .name →
          ∀ c ∈ (rest ++ gap ++ other).head?, isNameChar c = false := by
        intro name
        cases rest with
        | cons first others => exact ends name
        | nil =>
            obtain ⟨first, others, rfl⟩ := List.exists_cons_of_ne_nil some
            simpa using not_isNameChar_of_isSeparator (parts first List.mem_cons_self)
      have offsets : offset + Text.size (front ++ (mark.chars ++ rest) ++ gap) =
          mark.stop + Text.size (rest ++ gap) := by
        simp only [Text.size_append, Mark.stop, start]
        omega
      rw [offsets] at later
      have whole := Spaced.mark partsToo start spells apart (ih later)
      simpa only [List.append_assoc, List.cons_append] using whole

theorem shift (spaced : Spaced offset text read) (shift : Nat) :
    Spaced (offset + shift) text (read.map (·.moved (· + shift))) := by
  induction spaced with
  | last parts => exact .last parts
  | @mark offset gap rest mark read parts start spells ends _ ih =>
      have moved : mark.stop + shift = (mark.moved (· + shift)).stop := Nat.add_right_comm _ _ _
      rw [moved] at ih
      have here : (mark.moved (· + shift)).start = offset + shift + Text.size gap := by
        rw [Mark.moved, start, Nat.add_right_comm]
      exact .mark parts here spells ends ih

theorem spells (spaced : Spaced offset text read) :
    ∀ mark ∈ read, Spells (some mark.kind) mark.chars := by
  induction spaced with
  | last => exact List.forall_mem_nil _
  | mark _ _ spells _ _ ih => exact List.forall_mem_cons.mpr ⟨spells, ih⟩

theorem le_start (spaced : Spaced offset text read) : ∀ mark ∈ read, offset ≤ mark.start := by
  induction spaced with
  | last => exact List.forall_mem_nil _
  | @mark offset gap rest mark read _ start _ _ _ ih =>
      have first : offset ≤ mark.start := start ▸ Nat.le_add_right _ _
      refine List.forall_mem_cons.mpr ⟨first, fun next member => ?_⟩
      exact first.trans (Nat.le_of_add_right_le (ih next member))

end Spaced

namespace Parting

variable {gap : Nat → List Char} {mark : Mark} {read : List Mark}

theorem tail (parting : Parting gap (mark :: read)) :
    Parting (fun place => gap (place + 1)) read where
  parts place := parting.parts (place + 1)
  names place := parting.names (place + 1)

theorem ends (parting : Parting gap (mark :: read)) (name : mark.kind = .name)
    (spells : ∀ mark ∈ read, Spells (some mark.kind) mark.chars) :
    ∀ c ∈ (spaced (fun place => gap (place + 1)) read).head?, isNameChar c = false := by
  have separator : ∀ c ∈ gap 1, isNameChar c = false :=
    fun c there => not_isNameChar_of_isSeparator (parting.parts 1 c there)
  cases read with
  | nil => exact fun c first => separator c (List.mem_of_mem_head? first)
  | cons next others =>
      have names := parting.names 0 mark next rfl rfl name
      cases first : gap (0 + 1) with
      | nil =>
          have head : ∀ c ∈ (spaced (fun place => gap (place + 1)) (next :: others)).head?,
              isNameChar c = true ↔ next.kind = .name :=
            (spells next List.mem_cons_self).head_spaced others first
          exact fun c starts =>
            eq_false_of_ne_true fun letter => names ((head c starts).mp letter) first
      | cons c rest => simpa [spaced, first] using separator c (first ▸ List.mem_cons_self)

end Parting

namespace Spaced

variable {offset : Nat} {text : List Char} {read : List Mark}

theorem exists_parting (cut : Spaced offset text read) :
    ∃ gap, Parting gap read ∧ text = spaced gap read := by
  induction cut with
  | @last offset gap parts => exact ⟨fun _ => gap, ⟨fun _ => parts, by simp⟩, rfl⟩
  | @mark offset front rest mark read parts start spells ends later ih =>
      obtain ⟨gap, parting, rfl⟩ := ih
      let gaps : Nat → List Char
        | 0 => front
        | place + 1 => gap place
      refine ⟨gaps, ⟨?_, ?_⟩, rfl⟩
      · rintro (_ | place)
        · exact parts
        · exact parting.parts place
      · rintro (_ | place) former next here behind name nameToo none
        · cases here
          obtain ⟨others, rfl⟩ := List.head?_eq_some_iff.mp (List.head?_eq_getElem?.trans behind)
          -- without a gap the next name would go on with this one
          have spellsToo := later.spells next List.mem_cons_self
          have head := spellsToo.head_spaced others none
          obtain ⟨first, rest, chars⟩ := List.exists_cons_of_ne_nil spellsToo.filled
          have starts : first ∈ (spaced gap (next :: others)).head? := by
            simp [spaced, show gap 0 = [] from none, chars]
          exact absurd ((head first starts).mpr nameToo) (by simp [ends name first starts])
        · exact parting.names place former next here behind name nameToo none

theorem respaced (cut : Spaced offset text read) {gap : Nat → List Char}
    (parting : Parting gap read) (origin : Nat) :
    ∃ move, Spaced origin (spaced gap read) (read.map (·.moved move)) := by
  induction cut generalizing gap origin with
  | last => exact ⟨id, .last (parting.parts 0)⟩
  | @mark offset front rest mark read _ _ spells _ later ih =>
      let start := origin + Text.size (gap 0)
      obtain ⟨move, behind⟩ := ih parting.tail (start + Text.size mark.chars)
      -- the marks behind this one start elsewhere, so it can be moved apart from them
      let moved := Function.update move mark.start start
      have same : read.map (·.moved moved) = read.map (·.moved move) := by
        refine List.map_congr_left fun next member => ?_
        have further := later.le_start next member
        have filled := (Text.size_pos_iff _).mpr spells.filled
        have other : next.start ≠ mark.start := by
          rw [Mark.stop] at further
          omega
        simp only [Mark.moved, moved, Function.update_of_ne other]
      have here : (mark.moved moved).start = start := Function.update_self _ _ _
      refine ⟨moved, ?_⟩
      rw [List.map_cons, same]
      refine .mark (parting.parts 0) here spells (fun name => parting.ends name later.spells) ?_
      rwa [Mark.stop, here]

end Spaced

theorem Phrase.ofBody_moved {body other : String} {read : List Mark} {move : Nat → Nat}
    (cut : marks body.toList = .ok read)
    (moved : marks other.toList = .ok (read.map (·.moved move))) :
    ofBody other = (ofBody body).mapError (·.moved move) := by
  rw [ofBody, ofBody, cut, moved]
  cases read with
  | nil => rfl
  | cons mark rest => exact readMarks_moved [] .empty (mark :: rest)

theorem offset_of_error {body : String} {read : List Mark} {error : BodyError}
    (cut : marks body.toList = .ok read) (refused : Phrase.ofBody body = .error error) :
    error = .empty ∨ ∃ mark ∈ read, error.offset? = some mark.start := by
  by_cases none : read = []
  · rw [none] at cut
    cases (ofBody_of_nil cut).symm.trans refused
    exact .inl rfl
  · exact .inr ((ofBody_eq_error_iff_showsFirst cut none error).mp refused).offset

/-- Separators mean nothing. Between two bodies that are cut they leave the marks of each, those
of the second one behind the separators. The marks of a body have separators between them, and may
have any others there, as long as two names are parted: they are cut again at other places, and
what they say is the same, or the same is wrong with the same mark. -/
theorem marks_separated :
    (∀ front back gap read readToo, marks front = .ok read → marks back = .ok readToo →
      gap ≠ [] → (∀ c ∈ gap, isSeparator c = true) →
      marks (front ++ gap ++ back) =
        .ok (read ++ readToo.map (·.moved (· + Text.size (front ++ gap))))) ∧
    ∀ body read, marks body.toList = .ok read →
      (∃ gap, Parting gap read ∧ body.toList = spaced gap read) ∧
      (∀ error, Phrase.ofBody body = .error error →
        error = .empty ∨ ∃ mark ∈ read, error.offset? = some mark.start) ∧
      ∀ gap, Parting gap read → ∃ move,
        marks (spaced gap read) = .ok (read.map (·.moved move)) ∧
        Phrase.ofBody (String.ofList (spaced gap read)) =
          (Phrase.ofBody body).mapError (·.moved move) := by
  constructor
  · intro front back gap read readToo cut cutToo some parts
    have later := ((marks_eq_ok_iff_spaced back readToo).mp cutToo).shift
      (Text.size (front ++ gap))
    exact (((marks_eq_ok_iff_spaced front read).mp cut).append some parts later).marksFrom_eq
  · intro body read cut
    have whole := (marks_eq_ok_iff_spaced _ read).mp cut
    refine ⟨whole.exists_parting, fun error => offset_of_error cut, fun gap parting => ?_⟩
    obtain ⟨move, again⟩ := whole.respaced parting 0
    have moved := again.marksFrom_eq
    exact ⟨move, moved, Phrase.ofBody_moved cut (by rwa [String.toList_ofList])⟩

/-- A dash between the bodies is not taken for one between counts, and the bar with nothing behind
it is told wherever it stands. -/
theorem marks_separated_dashes :
    marks "A{1-2}- -B".toList =
      .ok [⟨.name, 0, ['A']⟩, ⟨.bounds, 1, "{1-2}".toList⟩, ⟨.name, 9, ['B']⟩] ∧
    ∃ move : Nat → Nat, Phrase.ofBody "A(B|)" = .error (.danglingAlternative 3) ∧
      Phrase.ofBody "- A- (- B- |- )- " = .error (.danglingAlternative (move 3)) := by
  obtain ⟨joined, respaced⟩ := marks_separated
  constructor
  · exact joined "A{1-2}".toList "-B".toList "- ".toList _ _ (by cbv) (by cbv)
      (List.cons_ne_nil _ _) (List.all_eq_true.mp rfl)
  · have parting : ∀ read, Parting (fun _ => "- ".toList) read := fun read =>
      ⟨fun _ => List.all_eq_true.mp rfl, fun _ _ _ _ _ _ _ => List.cons_ne_nil _ _⟩
    obtain ⟨-, -, others⟩ := respaced "A(B|)" _ (by cbv)
    obtain ⟨move, -, said⟩ := others _ (parting _)
    have refused : Phrase.ofBody "A(B|)" = .error (.danglingAlternative 3) := by cbv
    rw [refused] at said
    exact ⟨move, refused, said⟩

end TextGrammar.Notation
