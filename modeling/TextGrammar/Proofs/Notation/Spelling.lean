import Mathlib
import TextGrammar.Proofs.Notation.Braces

/-!
How a rule body is cut. Each kind of lexeme has its spellings, and at each place the longest
lexeme of any kind is cut off. A body that is cut to its end consists of its marks with separators
between them. One that is not is refused where no lexeme starts, however much of one stands there.
-/

namespace TextGrammar.Notation

/-- How the lexemes of a kind are spelled. Separators have no kind of mark. -/
inductive Spells : Option MarkKind → List Char → Prop where
  | separators {chars : List Char} (filled : chars ≠ [])
      (part : ∀ c ∈ chars, isSeparator c = true) : Spells none chars
  | name {first : Char} {rest : List Char} (letter : first.isAlpha = true)
      (more : ∀ c ∈ rest, isNameChar c = true) : Spells (some .name) (first :: rest)
  | opening : Spells (some .opening) ['(']
  | closing : Spells (some .closing) [')']
  | bounds {chars : List Char} {least : Nat} {most : Option Nat}
      (written : Written chars least most) : Spells (some .bounds) chars
  | bar : Spells (some .bar) ['|']
  | optional : Spells (some .optional) ['?']
  | star : Spells (some .star) ['*']
  | plus : Spells (some .plus) ['+']

/-- The longest lexeme at the start of a text: none of any kind that starts there is longer. -/
structure Longest (kind : Option MarkKind) (chars text : List Char) : Prop where
  starts : chars <+: text
  spells : Spells kind chars
  longest : ∀ other longer, Spells other longer → longer <+: text → longer.length ≤ chars.length

section Runs

variable {p : Char → Bool} {front back : List Char}

theorem runLength_append (all : ∀ c ∈ front, p c = true) (stops : ∀ c ∈ back.head?, p c = false) :
    runLength p (front ++ back) = front.length := by
  rw [runLength, List.takeWhile_append_of_pos all]
  cases back with
  | nil => simp
  | cons c rest => simp [stops c rfl]

theorem length_le_runLength (all : ∀ c ∈ front, p c = true) (back : List Char) :
    front.length ≤ runLength p (front ++ back) := by
  simp [runLength, List.takeWhile_append_of_pos all]

end Runs

/-! Whatever stands behind bounds as they are written, their length is found. -/

theorem Closes.closingLength?_append {close : List Char} (closes : Closes close)
    (rest : List Char) : closingLength? (close ++ rest) = some close.length := by
  obtain ⟨blanks, blank, rfl⟩ := closes
  have run : runLength isBlank (blanks ++ '}' :: rest) = blanks.length :=
    runLength_append blank (by simp; decide)
  simp [closingLength?, run]

theorem Closes.head_append {close : List Char} (closes : Closes close) (rest : List Char) :
    ∀ c ∈ (close ++ rest).head?, isCountSeparator c = true ∨ c = '}' := by
  obtain ⟨blanks, blank, rfl⟩ := closes
  cases blanks with
  | nil => simp
  | cons first others =>
      have parts := isCountSeparator_of_blanks blank
      simpa using Or.inl (parts first List.mem_cons_self)

theorem not_isDigit_of_head {text : List Char}
    (heads : ∀ c ∈ text.head?, isCountSeparator c = true ∨ c = '}') :
    ∀ c ∈ text.head?, c.isDigit = false := by
  intro c first
  rcases heads c first with separator | rfl
  · by_cases digit : c.isDigit = true
    · rw [not_isCountSeparator_of_isDigit digit] at separator
      cases separator
    · exact eq_false_of_ne_true digit
  · decide

theorem runLength_of_head {p : Char → Bool} {text : List Char}
    (stops : ∀ c ∈ text.head?, p c = false) : runLength p text = 0 :=
  @runLength_append p [] text (fun _ none => nomatch none) stops

theorem IsCount.head_append {digits : List Char} (count : IsCount digits) (rest : List Char) :
    ∀ c ∈ (digits ++ rest).head?, c.isDigit = true := by
  cases digits with
  | nil => exact absurd rfl count.filled
  | cons first others => simpa using count.all first List.mem_cons_self

namespace Upper

variable {least : Nat} {tail : List Char} {most : Option Nat}

theorem head_append (upper : Upper least tail most) (rest : List Char) :
    ∀ c ∈ (tail ++ rest).head?, isCountSeparator c = true ∨ c = '}' := by
  have parted : ∀ {gap : List Char} (behind : List Char), gap ≠ [] →
      (∀ c ∈ gap, isCountSeparator c = true) →
      ∀ c ∈ (gap ++ behind ++ rest).head?, isCountSeparator c = true ∨ c = '}' := by
    intro gap behind some parts
    cases gap with
    | nil => exact absurd rfl some
    | cons first others => simpa using Or.inl (parts first List.mem_cons_self)
  cases upper with
  | exact closes => exact closes.head_append rest
  | unbounded some parts closes => exact parted _ some parts
  | count some parts second closes => exact parted _ some parts

theorem secondCountLength?_append (upper : Upper least tail most) (rest : List Char) :
    secondCountLength? (tail ++ rest) = some tail.length := by
  cases upper with
  | exact closes =>
      have length := closes.closingLength?_append rest
      obtain ⟨blanks, blank, rfl⟩ := closes
      have run : runLength isCountSeparator (blanks ++ '}' :: rest) = blanks.length :=
        runLength_append (isCountSeparator_of_blanks blank) (by simp; decide)
      have digits : runLength Char.isDigit ('}' :: rest) = 0 :=
        runLength_of_head (by simp)
      rw [List.append_assoc, List.singleton_append] at length ⊢
      simp [secondCountLength?, run, digits, length]
  | @unbounded gap close parted parts closes =>
      have length := closes.closingLength?_append rest
      have run : runLength isCountSeparator (gap ++ '*' :: (close ++ rest)) = gap.length :=
        runLength_append parts (by simp; decide)
      have digits : runLength Char.isDigit ('*' :: (close ++ rest)) = 0 :=
        runLength_of_head (by simp)
      simp [secondCountLength?, run, digits, parted, length]
      omega
  | @count gap digits close parted parts second closes =>
      have length := closes.closingLength?_append rest
      have run : runLength isCountSeparator (gap ++ (digits ++ (close ++ rest))) = gap.length :=
        runLength_append parts fun c first =>
          not_isCountSeparator_of_isDigit (second.head_append _ c first)
      have counted : runLength Char.isDigit (digits ++ (close ++ rest)) = digits.length :=
        runLength_append second.all (not_isDigit_of_head (closes.head_append rest))
      simp [secondCountLength?, run, counted, parted, second.filled, length]
      omega

end Upper

theorem Written.brace {text : List Char} {least : Nat} {most : Option Nat}
    (written : Written text least most) : ∃ inner, text = '{' :: inner := by
  obtain ⟨_, _, _, same, -⟩ := written
  exact ⟨_, same⟩

theorem Written.boundsLength?_append {inner : List Char} {least : Nat} {most : Option Nat}
    (written : Written ('{' :: inner) least most) (rest : List Char) :
    boundsLength? (inner ++ rest) = some inner.length := by
  obtain ⟨blanks, digits, tail, same, blank, count, -, upper⟩ := written
  cases same
  have length := upper.secondCountLength?_append rest
  have run : runLength isBlank (blanks ++ (digits ++ (tail ++ rest))) = blanks.length :=
    runLength_append blank fun c first => by
      have none := not_isCountSeparator_of_isDigit (count.head_append _ c first)
      simp only [isCountSeparator, Bool.or_eq_false_iff] at none
      exact none.1.1.1
  have counted : runLength Char.isDigit (digits ++ (tail ++ rest)) = digits.length :=
    runLength_append count.all (not_isDigit_of_head (upper.head_append rest))
  simp [boundsLength?, run, counted, count.filled, length]
  omega

/-! The lexeme that is cut off is the longest one. -/

theorem of_isSeparator {p : Char → Bool}
    (each : [' ', '\t', '\n', '\r', ',', ';', ':', '-'].all p = true) {c : Char}
    (separator : isSeparator c = true) : p c = true := by
  apply List.all_eq_true.mp each c
  simpa [isSeparator, or_assoc] using separator

theorem isSeparator_of_isAlpha {c : Char} (letter : c.isAlpha = true) : isSeparator c = false := by
  apply eq_false_of_ne_true
  intro separator
  have other := of_isSeparator (p := fun c => !c.isAlpha) (by decide) separator
  simp [letter] at other

theorem Spells.lexeme?_append {kind : Option MarkKind} {first : Char} {front : List Char}
    (spells : Spells kind (first :: front)) (rest : List Char) :
    ∃ length, lexeme? first (front ++ rest) = some (kind, length) ∧ front.length ≤ length := by
  cases spells with
  | separators _ part =>
      have separator := part first List.mem_cons_self
      have others : ∀ c ∈ front, isSeparator c = true :=
        fun c later => part c (List.mem_cons_of_mem first later)
      exact ⟨_, by simp only [lexeme?, separator, ↓reduceIte], length_le_runLength others rest⟩
  | name letter more =>
      exact ⟨_, by simp only [lexeme?, letter, isSeparator_of_isAlpha letter, ↓reduceIte,
        Bool.false_eq_true], length_le_runLength more rest⟩
  | bounds written =>
      obtain ⟨inner, same⟩ := written.brace
      cases same
      have length := written.boundsLength?_append rest
      exact ⟨_, by rw [lexeme?, length]; rfl, le_rfl⟩
  | opening | closing | bar | optional | star | plus => exact ⟨0, rfl, le_rfl⟩

theorem Spells.filled {kind : Option MarkKind} {chars : List Char} (spells : Spells kind chars) :
    chars ≠ [] := by
  cases spells with
  | separators filled => exact filled
  | bounds written =>
      obtain ⟨inner, rfl⟩ := written.brace
      exact List.cons_ne_nil '{' inner
  | name | opening | closing | bar | optional | star | plus => exact List.cons_ne_nil _ _

theorem spells_of_lexeme? {kind : Option MarkKind} {first : Char} {rest : List Char} {length : Nat}
    (found : lexeme? first rest = some (kind, length)) :
    Spells kind (first :: rest.take length) := by
  unfold lexeme? at found
  split at found
  · next separator =>
      cases found
      rw [take_runLength]
      refine .separators (List.cons_ne_nil _ _) fun c there => ?_
      rcases List.mem_cons.mp there with rfl | later
      · exact separator
      · exact List.mem_takeWhile_imp later
  · split at found
    · next letter =>
        cases found
        rw [take_runLength]
        exact .name letter fun c there => List.mem_takeWhile_imp there
    · split at found
      case h_7 =>
        obtain ⟨inside, measured, same⟩ := Option.map_eq_some_iff.mp found
        cases same
        obtain ⟨least, most, written⟩ := written_of_length measured
        exact .bounds written
      case h_8 => cases found
      all_goals
        cases found
        rw [List.take_zero]
        constructor

theorem Spells.lexeme?_of_starts {kind : Option MarkKind} {chars : List Char} {first : Char}
    {rest : List Char} (spells : Spells kind chars) (starts : chars <+: first :: rest) :
    ∃ length, lexeme? first rest = some (kind, length) ∧ chars.length ≤ length + 1 := by
  cases chars with
  | nil => exact absurd rfl spells.filled
  | cons c front =>
      obtain ⟨rfl, back, rfl⟩ := List.cons_prefix_cons.mp starts
      obtain ⟨length, found, reach⟩ := spells.lexeme?_append back
      exact ⟨length, found, Nat.succ_le_succ reach⟩

theorem longest_of_lexeme? {kind : Option MarkKind} {first : Char} {rest : List Char} {length : Nat}
    (found : lexeme? first rest = some (kind, length)) :
    Longest kind (first :: rest.take length) (first :: rest) where
  starts := (List.prefix_cons_inj first).mpr (List.take_prefix length rest)
  spells := spells_of_lexeme? found
  longest := by
    intro other longer spells starts
    obtain ⟨reach, again, bound⟩ := spells.lexeme?_of_starts starts
    rw [found] at again
    cases again
    have whole := starts.length_le
    rw [List.length_cons] at whole ⊢
    rw [List.length_take]
    omega

theorem Longest.lexeme?_eq {kind : Option MarkKind} {first : Char} {front rest : List Char}
    (longest : Longest kind (first :: front) (first :: (front ++ rest))) :
    ∃ length, lexeme? first (front ++ rest) = some (kind, length) ∧
      (front ++ rest).take length = front ∧ (front ++ rest).drop length = rest := by
  obtain ⟨length, found, reach⟩ := longest.spells.lexeme?_append rest
  obtain ⟨extra, rfl⟩ := Nat.exists_eq_add_of_le reach
  have cut := longest_of_lexeme? found
  have bound := longest.longest _ _ cut.spells cut.starts
  rw [List.take_length_add_append, List.length_cons, List.length_cons, List.length_append] at bound
  have none : rest.take extra = [] := List.eq_nil_of_length_eq_zero (by omega)
  refine ⟨_, found, ?_, ?_⟩
  · rw [List.take_length_add_append, none, List.append_nil]
  · have whole := List.take_append_drop extra rest
    rw [none, List.nil_append] at whole
    rw [List.drop_length_add_append, whole]

/-! A text is cut lexeme by lexeme. -/

structure Piece where
  kind : Option MarkKind
  chars : List Char

/-- A text up to a rest as lexemes behind one another, each the longest where it starts. -/
inductive Pieces : List Piece → List Char → List Char → Prop where
  | done {text : List Char} : Pieces [] text text
  | next {piece : Piece} {pieces : List Piece} {text rest : List Char}
      (longest : Longest piece.kind piece.chars (piece.chars ++ text))
      (onward : Pieces pieces text rest) : Pieces (piece :: pieces) (piece.chars ++ text) rest

/-- Whether no lexeme starts where a text does, and the text is not at its end. -/
def Stuck (text : List Char) : Prop :=
  text ≠ [] ∧ ∀ kind chars, Spells kind chars → ¬chars <+: text

def spelled (pieces : List Piece) : List Char := pieces.flatMap (·.chars)

@[simp] theorem spelled_nil : spelled [] = [] := rfl

@[simp] theorem spelled_cons (piece : Piece) (rest : List Piece) :
    spelled (piece :: rest) = piece.chars ++ spelled rest := List.flatMap_cons

def marksOf (offset : Nat) : List Piece → List Mark
  | [] => []
  | ⟨none, chars⟩ :: rest => marksOf (offset + Text.size chars) rest
  | ⟨some kind, chars⟩ :: rest =>
      ⟨kind, offset, chars⟩ :: marksOf (offset + Text.size chars) rest

namespace Pieces

variable {pieces : List Piece} {text rest : List Char}

theorem text_eq (cut : Pieces pieces text rest) : text = spelled pieces ++ rest := by
  induction cut with
  | done => rfl
  | next _ _ ih => rw [ih, spelled_cons, List.append_assoc]

theorem marksFrom_eq (cut : Pieces pieces text rest) (offset : Nat) :
    marksFrom offset text =
      (marksFrom (offset + Text.size (spelled pieces)) rest).map (marksOf offset pieces ++ ·) := by
  induction cut generalizing offset with
  | done =>
      simp only [spelled_nil, Text.size, Nat.add_zero, marksOf, List.nil_append]
      cases marksFrom offset _ <;> rfl
  | @next piece pieces text rest longest onward ih =>
      obtain ⟨kind, chars⟩ := piece
      cases chars with
      | nil => exact absurd rfl longest.spells.filled
      | cons first front =>
          obtain ⟨length, found, taken, left⟩ := longest.lexeme?_eq
          have offsets : offset + Text.size (first :: front) + Text.size (spelled pieces) =
              offset + Text.size (spelled (⟨kind, first :: front⟩ :: pieces)) := by
            rw [spelled_cons, Text.size_append, Nat.add_assoc]
          rw [List.cons_append, marksFrom]
          simp only [found, taken, left, ih, offsets]
          cases marksFrom _ rest with
          | error place => rfl
          | ok marks => cases kind <;> rfl

end Pieces

theorem marksFrom_of_stuck {text : List Char} (stuck : Stuck text) (offset : Nat) :
    marksFrom offset text = .error offset := by
  cases text with
  | nil => exact absurd rfl stuck.1
  | cons first rest =>
      cases found : lexeme? first rest with
      | none => rw [marksFrom, found]
      | some lexeme =>
          obtain ⟨kind, length⟩ := lexeme
          have cut := longest_of_lexeme? found
          exact absurd cut.starts (stuck.2 _ _ cut.spells)

theorem exists_pieces (text : List Char) :
    ∃ pieces rest, Pieces pieces text rest ∧ (rest = [] ∨ Stuck rest) := by
  match text with
  | [] => exact ⟨[], [], .done, .inl rfl⟩
  | first :: rest =>
      cases found : lexeme? first rest with
      | none =>
          refine ⟨[], first :: rest, .done, .inr ⟨List.cons_ne_nil first rest, ?_⟩⟩
          intro kind chars spells starts
          obtain ⟨length, again, -⟩ := spells.lexeme?_of_starts starts
          cases found.symm.trans again
      | some lexeme =>
          obtain ⟨kind, length⟩ := lexeme
          obtain ⟨pieces, behind, onward, ends⟩ := exists_pieces (rest.drop length)
          have longest := longest_of_lexeme? found
          have whole : first :: rest = (first :: rest.take length) ++ rest.drop length := by
            rw [List.cons_append, List.take_append_drop]
          rw [whole] at longest ⊢
          exact ⟨⟨kind, _⟩ :: pieces, behind, .next longest onward, ends⟩
termination_by text.length
decreasing_by
  simp only [List.length_drop, List.length_cons]
  omega

/-! Where the marks stand in a body, and what stands between them. -/

/-- Whether a mark is spelled where it starts in a body. What follows a name does not go on
with it. -/
def Mark.Stands (mark : Mark) (body : List Char) : Prop :=
  ∃ before after, body = before ++ (mark.chars ++ after) ∧ Text.size before = mark.start ∧
    Spells (some mark.kind) mark.chars ∧
    (mark.kind = .name → ∀ c ∈ after.head?, isNameChar c = false)

def Mark.Covers (mark : Mark) (place : Nat) : Prop := mark.start ≤ place ∧ place < mark.stop

/-- Whether marks are laid out in a body from left to right, each filled and spelled where it
starts, with nothing but separators outside them. All of the body is ASCII. -/
structure Laid (body : List Char) (read : List Mark) : Prop where
  stands : ∀ mark ∈ read, mark.Stands body
  filled : ∀ mark ∈ read, mark.start < mark.stop
  ordered : read.Pairwise fun earlier later => earlier.stop ≤ later.start
  between : ∀ before c after, body = before ++ c :: after →
    (∀ mark ∈ read, ¬mark.Covers (Text.size before)) → isSeparator c = true
  plain : ∀ c ∈ body, c.toNat < 128

theorem Longest.name_ends {chars rest : List Char}
    (longest : Longest (some .name) chars (chars ++ rest)) :
    ∀ c ∈ rest.head?, isNameChar c = false := by
  intro c follows
  by_cases more : isNameChar c = true
  · obtain ⟨others, rfl⟩ := List.head?_eq_some_iff.mp follows
    have longer : Spells (some .name) (chars ++ [c]) := by
      cases longest.spells with
      | name letter within =>
          refine .name letter fun next there => ?_
          rcases List.mem_append.mp there with earlier | last
          · exact within next earlier
          · exact List.mem_singleton.mp last ▸ more
    have bound := longest.longest _ _ longer (by simp)
    rw [List.length_append] at bound
    exact absurd bound (Nat.not_succ_le_self _)
  · exact eq_false_of_ne_true more

section Plain

theorem toNat_lt_of_isAlphanum {c : Char} (plain : c.isAlphanum = true) : c.toNat < 128 := by
  simp only [Char.isAlphanum, Char.isAlpha, Char.isUpper, Char.isLower, Char.isDigit,
    Bool.or_eq_true, Bool.and_eq_true, decide_eq_true_eq, UInt32.le_iff_toNat_le,
    ge_iff_le] at plain
  rw [Char.toNat]
  rcases plain with (⟨-, bound⟩ | ⟨-, bound⟩) | ⟨-, bound⟩ <;>
    exact Nat.lt_of_le_of_lt bound (by decide)

theorem toNat_lt_of_isDigit {c : Char} (digit : c.isDigit = true) : c.toNat < 128 :=
  toNat_lt_of_isAlphanum (by simp [Char.isAlphanum, digit])

theorem toNat_lt_of_isNameChar {c : Char} (plain : isNameChar c = true) : c.toNat < 128 := by
  simp only [isNameChar, Bool.or_eq_true, decide_eq_true_eq] at plain
  rcases plain with alphanumeric | rfl
  · exact toNat_lt_of_isAlphanum alphanumeric
  · decide

theorem toNat_lt_of_isSeparator {c : Char} (separator : isSeparator c = true) : c.toNat < 128 := by
  have low := of_isSeparator (p := fun c => c.toNat < 128) (by decide) separator
  simpa using low

theorem toNat_lt_of_isCountSeparator {c : Char} (separator : isCountSeparator c = true) :
    c.toNat < 128 := by
  apply toNat_lt_of_isSeparator
  simp only [isCountSeparator, isBlank, Bool.or_eq_true, decide_eq_true_eq] at separator
  rcases separator with (((rfl | rfl) | rfl) | rfl) | rfl <;> rfl

theorem Closes.plain {close : List Char} (closes : Closes close) : ∀ c ∈ close, c.toNat < 128 := by
  obtain ⟨blanks, blank, rfl⟩ := closes
  intro c there
  rcases List.mem_append.mp there with before | brace
  · exact toNat_lt_of_isCountSeparator (isCountSeparator_of_blanks blank c before)
  · exact List.mem_singleton.mp brace ▸ by decide

theorem Upper.plain {least : Nat} {tail : List Char} {most : Option Nat}
    (upper : Upper least tail most) : ∀ c ∈ tail, c.toNat < 128 := by
  intro c there
  cases upper with
  | exact closes => exact closes.plain c there
  | unbounded parted parts closes =>
      rcases List.mem_append.mp there with before | behind
      · exact toNat_lt_of_isCountSeparator (parts c before)
      · rcases List.mem_cons.mp behind with rfl | close
        · decide
        · exact closes.plain c close
  | count parted parts second closes =>
      rcases List.mem_append.mp there with before | behind
      · exact toNat_lt_of_isCountSeparator (parts c before)
      · rcases List.mem_append.mp behind with digit | close
        · exact toNat_lt_of_isDigit (second.all c digit)
        · exact closes.plain c close

theorem Written.plain {text : List Char} {least : Nat} {most : Option Nat}
    (written : Written text least most) : ∀ c ∈ text, c.toNat < 128 := by
  obtain ⟨blanks, digits, tail, rfl, blank, count, -, upper⟩ := written
  intro c there
  rcases List.mem_cons.mp there with rfl | inside
  · decide
  · rcases List.mem_append.mp inside with before | behind
    · exact toNat_lt_of_isCountSeparator (isCountSeparator_of_blanks blank c before)
    · rcases List.mem_append.mp behind with digit | later
      · exact toNat_lt_of_isDigit (count.all c digit)
      · exact upper.plain c later

theorem Spells.plain {kind : Option MarkKind} {chars : List Char} (spells : Spells kind chars) :
    ∀ c ∈ chars, c.toNat < 128 := by
  cases spells with
  | separators _ part => exact fun c there => toNat_lt_of_isSeparator (part c there)
  | @name first rest letter more =>
      intro c there
      rcases List.mem_cons.mp there with rfl | later
      · exact toNat_lt_of_isAlphanum (by simp [Char.isAlphanum, letter])
      · exact toNat_lt_of_isNameChar (more c later)
  | bounds written => exact written.plain
  | opening | closing | bar | optional | star | plus =>
      exact fun c there => List.mem_singleton.mp there ▸ by decide

end Plain

theorem mem_marksOf {offset : Nat} {pieces : List Piece} {mark : Mark}
    (member : mark ∈ marksOf offset pieces) : ∃ front back,
      pieces = front ++ ⟨some mark.kind, mark.chars⟩ :: back ∧
        mark.start = offset + Text.size (spelled front) := by
  induction pieces generalizing offset with
  | nil => cases member
  | cons piece rest ih =>
      have later : mark ∈ marksOf (offset + Text.size piece.chars) rest → ∃ front back,
          piece :: rest = front ++ ⟨some mark.kind, mark.chars⟩ :: back ∧
            mark.start = offset + Text.size (spelled front) := by
        intro behind
        obtain ⟨front, back, same, start⟩ := ih behind
        refine ⟨piece :: front, back, by rw [same, List.cons_append], ?_⟩
        rw [start, spelled_cons, Text.size_append, Nat.add_assoc]
      obtain ⟨kind, chars⟩ := piece
      cases kind with
      | none => exact later member
      | some kind =>
          rcases List.mem_cons.mp member with rfl | behind
          · exact ⟨[], rest, rfl, rfl⟩
          · exact later behind

namespace Pieces

variable {pieces front back : List Piece} {piece : Piece} {text rest : List Char}

theorem longest_of_append (cut : Pieces (front ++ piece :: back) text rest) :
    Longest piece.kind piece.chars (piece.chars ++ (spelled back ++ rest)) := by
  induction front generalizing text with
  | nil =>
      cases cut with
      | next longest onward => exact onward.text_eq ▸ longest
  | cons first others ih =>
      cases cut with
      | next _ onward => exact ih onward

theorem stands (cut : Pieces pieces text rest) :
    ∀ mark ∈ marksOf 0 pieces, mark.Stands text := by
  intro mark member
  obtain ⟨front, back, rfl, start⟩ := mem_marksOf member
  have longest := cut.longest_of_append
  refine ⟨spelled front, spelled back ++ rest, ?_, by rw [start, Nat.zero_add], longest.spells, ?_⟩
  · rw [cut.text_eq]
    simp [spelled]
  · intro name
    rw [name] at longest
    exact longest.name_ends

theorem filled (cut : Pieces pieces text rest) (offset : Nat) :
    ∀ mark ∈ marksOf offset pieces, mark.start < mark.stop := by
  intro mark member
  obtain ⟨front, back, rfl, -⟩ := mem_marksOf member
  have some := (Text.size_pos_iff _).mpr cut.longest_of_append.spells.filled
  exact Nat.lt_add_of_pos_right some

theorem plain (cut : Pieces pieces text rest) : ∀ c ∈ spelled pieces, c.toNat < 128 := by
  induction cut with
  | done => exact fun c none => nomatch none
  | next longest _ ih =>
      intro c there
      rcases List.mem_append.mp (spelled_cons _ _ ▸ there) with here | later
      · exact longest.spells.plain c here
      · exact ih c later

end Pieces

theorem le_start_of_mem_marksOf {offset : Nat} {pieces : List Piece} :
    ∀ mark ∈ marksOf offset pieces, offset ≤ mark.start := by
  intro mark member
  obtain ⟨front, -, -, start⟩ := mem_marksOf member
  omega

theorem pairwise_marksOf (offset : Nat) (pieces : List Piece) :
    (marksOf offset pieces).Pairwise fun earlier later => earlier.stop ≤ later.start := by
  induction pieces generalizing offset with
  | nil => exact .nil
  | cons piece rest ih =>
      obtain ⟨kind, chars⟩ := piece
      cases kind with
      | none => exact ih _
      | some kind => exact .cons le_start_of_mem_marksOf (ih _)

theorem Pieces.separator_or_covered {pieces : List Piece} {text rest : List Char}
    (cut : Pieces pieces text rest) (offset : Nat) {before after : List Char} {c : Char}
    (whole : text = before ++ c :: (after ++ rest)) :
    isSeparator c = true ∨
      ∃ mark ∈ marksOf offset pieces, mark.Covers (offset + Text.size before) := by
  induction cut generalizing offset before with
  | done =>
      have lengths := congrArg List.length whole
      simp at lengths
      omega
  | @next piece pieces text rest longest onward ih =>
      have behind : ∀ further, before = piece.chars ++ further →
          text = further ++ c :: (after ++ rest) → isSeparator c = true ∨
            ∃ mark ∈ marksOf offset (piece :: pieces), mark.Covers (offset + Text.size before) := by
        rintro further rfl onward
        rw [Text.size_append, ← Nat.add_assoc]
        refine (ih (offset + Text.size piece.chars) onward).imp_right ?_
        rintro ⟨mark, member, covers⟩
        refine ⟨mark, ?_, covers⟩
        obtain ⟨kind, chars⟩ := piece
        cases kind with
        | none => exact member
        | some kind => exact List.mem_cons_of_mem _ member
      rcases List.append_eq_append_iff.mp whole with ⟨further, same, later⟩ | ⟨within, same, here⟩
      · exact behind further same later
      · cases within with
        | nil => exact behind [] (by simpa using same.symm) (by simpa using here.symm)
        | cons first others =>
            -- the character is inside the lexeme, which is separators or leaves a mark
            obtain ⟨rfl, -⟩ := List.cons.inj here
            obtain ⟨kind, chars⟩ := piece
            cases kind with
            | none =>
                cases longest.spells with
                | separators _ part => exact .inl (part c (same ▸ by simp))
            | some kind =>
                refine .inr ⟨_, List.mem_cons_self, Nat.le_add_right offset _, ?_⟩
                have size : Text.size chars = Text.size before + (c.utf8Size + Text.size others) :=
                  (congrArg Text.size same).trans (Text.size_append _ _)
                have positive := c.utf8Size_pos
                simp only [Mark.stop]
                omega

theorem Pieces.laid {pieces : List Piece} {body : List Char} (cut : Pieces pieces body []) :
    Laid body (marksOf 0 pieces) where
  stands := cut.stands
  filled := cut.filled 0
  ordered := pairwise_marksOf 0 pieces
  between := by
    intro before c after whole outside
    rw [← List.append_nil after] at whole
    rcases cut.separator_or_covered 0 whole with separator | ⟨mark, member, covers⟩
    · exact separator
    · rw [Nat.zero_add] at covers
      exact absurd covers (outside mark member)
  plain := by
    have whole := cut.text_eq
    rw [List.append_nil] at whole
    exact whole ▸ cut.plain

theorem marks_eq_ok_iff (body : List Char) (read : List Mark) :
    marks body = .ok read ↔ ∃ pieces, Pieces pieces body [] ∧ read = marksOf 0 pieces := by
  constructor
  · intro result
    obtain ⟨pieces, rest, cut, ends⟩ := exists_pieces body
    rw [marks, cut.marksFrom_eq] at result
    rcases ends with rfl | stuck
    · rw [marksFrom] at result
      cases result
      exact ⟨pieces, cut, List.append_nil _⟩
    · rw [marksFrom_of_stuck stuck] at result
      cases result
  · rintro ⟨pieces, cut, rfl⟩
    rw [marks, cut.marksFrom_eq, marksFrom, Except.map, List.append_nil]

theorem marks_eq_error_iff (body : List Char) (place : Nat) :
    marks body = .error place ↔ ∃ pieces front rest, body = front ++ rest ∧
      Pieces pieces body rest ∧ Stuck rest ∧ place = Text.size front := by
  constructor
  · intro result
    obtain ⟨pieces, rest, cut, ends⟩ := exists_pieces body
    rw [marks, cut.marksFrom_eq] at result
    rcases ends with rfl | stuck
    · rw [marksFrom] at result
      cases result
    · rw [marksFrom_of_stuck stuck] at result
      cases result
      exact ⟨pieces, _, rest, cut.text_eq, cut, stuck, Nat.zero_add _⟩
  · rintro ⟨pieces, front, rest, whole, cut, stuck, rfl⟩
    have same := List.append_cancel_right (whole.symm.trans cut.text_eq)
    rw [marks, cut.marksFrom_eq, marksFrom_of_stuck stuck, same, Nat.zero_add]
    rfl

theorem stuck_of_brace {rest : List Char}
    (malformed : ∀ chars least most, Written chars least most → ¬chars <+: '{' :: rest) :
    Stuck ('{' :: rest) := by
  refine ⟨List.cons_ne_nil _ _, fun kind chars spells starts => ?_⟩
  obtain ⟨length, found, -⟩ := spells.lexeme?_of_starts starts
  obtain ⟨inside, measured, -⟩ := Option.map_eq_some_iff.mp found
  obtain ⟨least, most, written⟩ := written_of_length measured
  exact malformed _ least most written ((List.prefix_cons_inj _).mpr (List.take_prefix _ _))

/-- A body is cut at each place into the longest lexeme that starts there. If it is cut to its
end, its marks are laid out in it with separators between them; if not, the offset is told at
which no lexeme starts, which for a malformed brace is the offset of the brace. -/
theorem marks_longest (body : List Char) :
    (∀ read, marks body = .ok read ↔
      ∃ pieces, Pieces pieces body [] ∧ read = marksOf 0 pieces) ∧
    (∀ read, marks body = .ok read → Laid body read) ∧
    (∀ place, marks body = .error place ↔ ∃ pieces front rest, body = front ++ rest ∧
      Pieces pieces body rest ∧ Stuck rest ∧ place = Text.size front) ∧
    ∀ pieces front rest, body = front ++ '{' :: rest → Pieces pieces body ('{' :: rest) →
      (∀ chars least most, Written chars least most → ¬chars <+: '{' :: rest) →
      marks body = .error (Text.size front) := by
  refine ⟨marks_eq_ok_iff body, ?_, marks_eq_error_iff body, ?_⟩
  · intro read result
    obtain ⟨pieces, cut, rfl⟩ := (marks_eq_ok_iff body read).mp result
    exact cut.laid
  · intro pieces front rest whole cut malformed
    exact (marks_eq_error_iff body _).mpr
      ⟨pieces, front, _, whole, cut, stuck_of_brace malformed, rfl⟩

/-- A dash parts the counts of bounds. A second count that is none shows only behind it, and the
brace is refused. -/
theorem marks_longest_dashes :
    Laid "A {1-4}".toList [⟨.name, 0, ['A']⟩, ⟨.bounds, 2, ['{', '1', '-', '4', '}']⟩] ∧
      marks "A {1-é}".toList = .error 2 := by
  constructor
  · exact (marks_longest _).2.1 _ (by cbv)
  · have cut : Pieces [⟨some .name, ['A']⟩, ⟨none, [' ']⟩] "A {1-é}".toList
        ['{', '1', '-', 'é', '}'] :=
      .next (@longest_of_lexeme? _ 'A' _ 0 rfl) (.next (@longest_of_lexeme? _ ' ' _ 0 rfl) .done)
    refine (marks_longest _).2.2.2 _ ['A', ' '] _ rfl cut fun chars least most written starts => ?_
    obtain ⟨length, found, -⟩ := (Spells.bounds written).lexeme?_of_starts starts
    cases found

end TextGrammar.Notation
