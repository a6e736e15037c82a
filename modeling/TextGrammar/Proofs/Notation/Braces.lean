import Mathlib.Data.List.TakeWhile
import TextGrammar.Notation.Body

/-!
Bounds in braces. A lexeme of bounds is an opening brace, a first count, possibly separators
with a second count or an asterisk, and a closing brace. Reading it gives the values of the
counts as they stand, unless one of them does not fit in 32 bits.
-/

namespace TextGrammar

namespace Text

variable {isSeparator : Char → Bool}

theorem fields_gap {gap : List Char} (parts : ∀ c ∈ gap, isSeparator c = true)
    (text : List Char) : fields isSeparator (gap ++ text) = fields isSeparator text := by
  unfold fields
  induction gap with
  | nil => rfl
  | cons c rest ih =>
      rw [List.cons_append, fieldsFrom, if_pos (parts c List.mem_cons_self)]
      exact ih fun later there => parts later (List.mem_cons_of_mem c there)

theorem fieldsFrom_word {word : List Char} (whole : ∀ c ∈ word, isSeparator c = false)
    (field text : List Char) :
    fieldsFrom isSeparator field (word ++ text) =
      fieldsFrom isSeparator (word.reverse ++ field) text := by
  induction word generalizing field with
  | nil => rfl
  | cons c rest ih =>
      have other : isSeparator c = false := whole c List.mem_cons_self
      rw [List.cons_append, fieldsFrom, if_neg (by simp [other]),
        ih fun later there => whole later (List.mem_cons_of_mem c there)]
      simp

theorem fields_word {word gap : List Char} (filled : word ≠ [])
    (whole : ∀ c ∈ word, isSeparator c = false) (parts : ∀ c ∈ gap, isSeparator c = true) :
    fields isSeparator (word ++ gap) = [word] := by
  have begun : word.reverse.isEmpty = false := by simpa using filled
  rw [fields, fieldsFrom_word whole, List.append_nil]
  cases gap with
  | nil => simp [fieldsFrom, begun]
  | cons first others =>
      have behind := fields_gap (fun c there => parts c (List.mem_cons_of_mem first there)) []
      rw [List.append_nil, fields] at behind
      rw [fieldsFrom, if_pos (parts first List.mem_cons_self), begun, behind,
        List.reverse_reverse]
      rfl

theorem fields_word_gap {word gap : List Char} (filled : word ≠ [])
    (whole : ∀ c ∈ word, isSeparator c = false) (parted : gap ≠ [])
    (parts : ∀ c ∈ gap, isSeparator c = true) (text : List Char) :
    fields isSeparator (word ++ (gap ++ text)) = word :: fields isSeparator text := by
  obtain ⟨first, others, rfl⟩ := List.exists_cons_of_ne_nil parted
  have begun : word.reverse.isEmpty = false := by simpa using filled
  have behind := fields_gap (fun c there => parts c (List.mem_cons_of_mem first there)) text
  rw [fields, fieldsFrom_word whole, List.cons_append, fieldsFrom,
    if_pos (parts first List.mem_cons_self), List.append_nil, List.reverse_reverse, begun]
  exact congrArg (word :: ·) behind

end Text

namespace Notation

structure IsCount (digits : List Char) : Prop where
  filled : digits ≠ []
  all : ∀ c ∈ digits, c.isDigit = true

def Closes (text : List Char) : Prop :=
  ∃ blanks, (∀ c ∈ blanks, isBlank c = true) ∧ text = blanks ++ ['}']

/-- What stands behind the first count of bounds, with the upper bound that it tells. A
count on its own is the upper bound too. -/
inductive Upper (least : Nat) : List Char → Option Nat → Prop where
  | exact {close : List Char} (closes : Closes close) : Upper least close (some least)
  | unbounded {gap close : List Char} (parted : gap ≠ [])
      (parts : ∀ c ∈ gap, isCountSeparator c = true) (closes : Closes close) :
      Upper least (gap ++ '*' :: close) none
  | count {gap digits close : List Char} (parted : gap ≠ [])
      (parts : ∀ c ∈ gap, isCountSeparator c = true) (second : IsCount digits)
      (closes : Closes close) :
      Upper least (gap ++ (digits ++ close)) (some (Bounds.ofDigits digits))

/-- Bounds as they are written, with their values, `most` being `none` for no upper one. -/
def Written (text : List Char) (least : Nat) (most : Option Nat) : Prop :=
  ∃ blanks digits tail, text = '{' :: (blanks ++ (digits ++ tail)) ∧
    (∀ c ∈ blanks, isBlank c = true) ∧ IsCount digits ∧ least = Bounds.ofDigits digits ∧
    Upper least tail most

theorem isCountSeparator_of_blanks {blanks : List Char} (blank : ∀ c ∈ blanks, isBlank c = true) :
    ∀ c ∈ blanks, isCountSeparator c = true := by
  intro c there
  simp [isCountSeparator, blank c there]

theorem not_isCountSeparator_of_isDigit {c : Char} (digit : c.isDigit = true) :
    isCountSeparator c = false := by
  refine Bool.eq_false_iff.mpr fun separator => ?_
  simp only [isCountSeparator, isBlank, Bool.or_eq_true, decide_eq_true_eq] at separator
  rcases separator with (((rfl | rfl) | rfl) | rfl) | rfl <;> exact absurd digit (by decide)

theorem IsCount.parts_none {digits : List Char} (count : IsCount digits) :
    ∀ c ∈ digits, isCountSeparator c = false :=
  fun c there => not_isCountSeparator_of_isDigit (count.all c there)

theorem IsCount.count?_eq {digits : List Char} (count : IsCount digits) :
    Bounds.count? digits =
      if Bounds.ofDigits digits < UInt32.size then some (.ofNat (Bounds.ofDigits digits))
      else none := by
  have all : digits.all Char.isDigit = true := List.all_eq_true.mpr count.all
  have filled : digits.isEmpty = false := by simpa using count.filled
  unfold Bounds.count?
  split
  · -- a plus sign is no digit
    exact absurd (count.all '+' List.mem_cons_self) (by decide)
  · simp [all, filled]

theorem Upper.fields {least : Nat} {tail : List Char} {most : Option Nat}
    (upper : Upper least tail most) {first : List Char} (count : IsCount first) :
    ∃ inner, tail = inner ++ ['}'] ∧
      (most = some least ∧ Text.fields isCountSeparator (first ++ inner) = [first] ∨
        most = none ∧ Text.fields isCountSeparator (first ++ inner) = [first, ['*']] ∨
        ∃ digits, IsCount digits ∧ most = some (Bounds.ofDigits digits) ∧
          Text.fields isCountSeparator (first ++ inner) = [first, digits]) := by
  cases upper with
  | exact closes =>
      obtain ⟨blanks, blank, rfl⟩ := closes
      exact ⟨blanks, rfl, .inl ⟨rfl,
        Text.fields_word count.filled count.parts_none (isCountSeparator_of_blanks blank)⟩⟩
  | @unbounded gap close parted parts closes =>
      obtain ⟨blanks, blank, rfl⟩ := closes
      refine ⟨gap ++ '*' :: blanks, by simp, .inr (.inl ⟨rfl, ?_⟩)⟩
      have star : ∀ c ∈ ['*'], isCountSeparator c = false := fun _ there =>
        List.mem_singleton.mp there ▸ rfl
      rw [Text.fields_word_gap count.filled count.parts_none parted parts]
      exact congrArg (first :: ·)
        (Text.fields_word (List.cons_ne_nil '*' []) star (isCountSeparator_of_blanks blank))
  | @count gap digits close parted parts second closes =>
      obtain ⟨blanks, blank, rfl⟩ := closes
      refine ⟨gap ++ (digits ++ blanks), by simp, .inr (.inr ⟨digits, second, rfl, ?_⟩)⟩
      rw [Text.fields_word_gap count.filled count.parts_none parted parts,
        Text.fields_word second.filled second.parts_none (isCountSeparator_of_blanks blank)]

theorem Written.ofText?_eq {text : List Char} {least : Nat} {most : Option Nat}
    (written : Written text least most) :
    Bounds.ofText? text =
      if least < UInt32.size ∧ ∀ upper ∈ most, upper < UInt32.size then
        some ⟨.ofNat least, most.map .ofNat⟩
      else none := by
  obtain ⟨blanks, digits, tail, rfl, blank, count, rfl, upper⟩ := written
  obtain ⟨inner, rfl, read⟩ := upper.fields count
  have body : blanks ++ (digits ++ (inner ++ ['}'])) = (blanks ++ (digits ++ inner)) ++ ['}'] := by
    simp
  rw [body, Bounds.ofText?, List.getLast?_concat, if_pos rfl, List.dropLast_concat,
    Text.fields_gap (isCountSeparator_of_blanks blank)]
  rcases read with ⟨rfl, fields⟩ | ⟨rfl, fields⟩ | ⟨second, more, rfl, fields⟩
  · rw [fields]
    by_cases fits : Bounds.ofDigits digits < UInt32.size <;> simp [count.count?_eq, fits]
  · rw [fields]
    by_cases fits : Bounds.ofDigits digits < UInt32.size <;> simp [count.count?_eq, fits]
  · have digit : second ≠ ['*'] := by
      rintro rfl
      exact absurd (more.all '*' List.mem_cons_self) (by decide)
    rw [fields]
    by_cases fits : Bounds.ofDigits digits < UInt32.size <;>
      by_cases fitsToo : Bounds.ofDigits second < UInt32.size <;>
      simp [count.count?_eq, more.count?_eq, fits, fitsToo, digit]

/-! What is cut as a lexeme of bounds is bounds as they are written. -/

theorem take_runLength (p : Char → Bool) (text : List Char) :
    text.take (runLength p text) = text.takeWhile p :=
  (List.prefix_iff_eq_take.mp (List.takeWhile_prefix p)).symm

theorem takeWhile_ne_nil {p : Char → Bool} {text : List Char} (found : runLength p text ≠ 0) :
    text.takeWhile p ≠ [] :=
  fun missing => found (by rw [runLength, missing]; rfl)

theorem closes_of_length {text : List Char} {length : Nat}
    (found : closingLength? text = some length) : Closes (text.take length) := by
  unfold closingLength? at found
  dsimp only at found
  split at found
  · next brace =>
      cases found
      obtain ⟨rest, same⟩ := List.head?_eq_some_iff.mp brace
      refine ⟨text.takeWhile isBlank, fun c there => List.mem_takeWhile_imp there, ?_⟩
      rw [List.take_add, take_runLength, same]
      rfl
  · cases found

theorem isCount_takeWhile {text : List Char} (found : runLength Char.isDigit text ≠ 0) :
    IsCount (text.takeWhile Char.isDigit) :=
  ⟨takeWhile_ne_nil found, fun _ there => List.mem_takeWhile_imp there⟩

theorem upper_of_length (least : Nat) {text : List Char} {length : Nat}
    (found : secondCountLength? text = some length) :
    ∃ most, Upper least (text.take length) most := by
  have parts : ∀ c ∈ text.takeWhile isCountSeparator, isCountSeparator c = true :=
    fun _ there => List.mem_takeWhile_imp there
  unfold secondCountLength? at found
  dsimp only at found
  split at found
  · next both =>
      obtain ⟨close, closing, rfl⟩ := Option.map_eq_some_iff.mp found
      rw [List.take_add, List.take_add, take_runLength, take_runLength, List.append_assoc,
        ← List.drop_drop]
      exact ⟨_, .count (takeWhile_ne_nil both.1) parts (isCount_takeWhile both.2)
        (closes_of_length closing)⟩
  · split at found
    · next star =>
        obtain ⟨close, closing, rfl⟩ := Option.map_eq_some_iff.mp found
        obtain ⟨rest, same⟩ := List.head?_eq_some_iff.mp star.2
        rw [same] at closing
        rw [List.take_add, List.take_add, take_runLength, List.append_assoc, ← List.drop_drop, same]
        exact ⟨_, .unbounded (takeWhile_ne_nil star.1) parts (closes_of_length closing)⟩
    · exact ⟨_, .exact (closes_of_length found)⟩

theorem written_of_length {text : List Char} {length : Nat}
    (found : boundsLength? text = some length) :
    ∃ least most, Written ('{' :: text.take length) least most := by
  unfold boundsLength? at found
  dsimp only at found
  split at found
  · cases found
  · next counted =>
      obtain ⟨tail, second, rfl⟩ := Option.map_eq_some_iff.mp found
      obtain ⟨most, upper⟩ := upper_of_length
        (Bounds.ofDigits ((text.drop (runLength isBlank text)).takeWhile Char.isDigit)) second
      rw [List.take_add, List.take_add, take_runLength, take_runLength, List.append_assoc]
      exact ⟨_, most, _, _, _, rfl, fun c there => List.mem_takeWhile_imp there,
        isCount_takeWhile counted, rfl, upper⟩

theorem bounds_of_lexeme {first : Char} {rest : List Char} {length : Nat}
    (found : lexeme? first rest = some (some .bounds, length)) :
    first = '{' ∧ boundsLength? rest = some length := by
  unfold lexeme? at found
  split at found
  · cases found
  · split at found
    · cases found
    · split at found <;> try cases found
      obtain ⟨length, bounds, same⟩ := Option.map_eq_some_iff.mp found
      cases same
      exact ⟨rfl, bounds⟩

theorem lexeme_of_mem_marks {offset : Nat} {text : List Char} {read : List Mark}
    (cut : marksFrom offset text = .ok read) :
    ∀ mark ∈ read, ∃ first rest length, lexeme? first rest = some (some mark.kind, length) ∧
      mark.chars = first :: rest.take length := by
  fun_induction marksFrom offset text generalizing read with
  | case1 =>
      cases cut
      simp
  | case2 | case3 => cases cut
  | case4 offset first rest kind length found chars marks others =>
      rename_i ih
      cases cut
      intro mark member
      cases kind with
      | none => exact ih others mark member
      | some kind =>
          rcases List.mem_cons.mp member with rfl | later
          · exact ⟨first, rest, length, found, rfl⟩
          · exact ih others mark later

theorem written_of_mem_marks {offset : Nat} {text : List Char} {read : List Mark}
    (cut : marksFrom offset text = .ok read) {mark : Mark} (member : mark ∈ read)
    (kind : mark.kind = .bounds) : ∃ least most, Written mark.chars least most := by
  obtain ⟨first, rest, length, found, chars⟩ := lexeme_of_mem_marks cut mark member
  rw [kind] at found
  obtain ⟨rfl, bounds⟩ := bounds_of_lexeme found
  rw [chars]
  exact written_of_length bounds

/-- Whether a mark is a quantifier with some bounds, those written in braces being values
that fit in 32 bits and no lower bound that is above the upper one. -/
def Mark.Repeats (mark : Mark) (bounds : Bounds) : Prop :=
  match mark.kind with
  | .optional => bounds = ⟨0, some 1⟩
  | .star => bounds = ⟨0, none⟩
  | .plus => bounds = ⟨1, none⟩
  | .bounds => Written mark.chars bounds.least.toNat (bounds.most.map UInt32.toNat) ∧
      ∀ most ∈ bounds.most, bounds.least ≤ most
  | .name | .opening | .closing | .bar => False

theorem Written.ofText?_toNat {text : List Char} {bounds : Bounds}
    (written : Written text bounds.least.toNat (bounds.most.map UInt32.toNat)) :
    Bounds.ofText? text = some bounds := by
  have fits : bounds.least.toNat < UInt32.size ∧
      ∀ upper ∈ bounds.most.map UInt32.toNat, upper < UInt32.size := by
    refine ⟨bounds.least.toNat_lt, fun upper member => ?_⟩
    obtain ⟨most, -, rfl⟩ := Option.map_eq_some_iff.mp member
    exact most.toNat_lt
  rw [written.ofText?_eq, if_pos fits]
  simp [Function.comp_def]

theorem Written.toNat_of_ofText? {text : List Char} {least : Nat} {most : Option Nat}
    {bounds : Bounds} (written : Written text least most)
    (read : Bounds.ofText? text = some bounds) :
    bounds.least.toNat = least ∧ bounds.most.map UInt32.toNat = most := by
  rw [written.ofText?_eq] at read
  split at read
  · next fits =>
      cases read
      refine ⟨UInt32.toNat_ofNat_of_lt fits.1, ?_⟩
      cases most with
      | none => rfl
      | some upper => exact congrArg some (UInt32.toNat_ofNat_of_lt (fits.2 upper rfl))
  · cases read

def Mark.IsQuantifier (mark : Mark) : Prop :=
  mark.kind = .optional ∨ mark.kind = .star ∨ mark.kind = .plus ∨
    mark.kind = .bounds ∧ ∃ least most, Written mark.chars least most

/-- A quantifier is read with the bounds that it means, and refused if it means none. -/
theorem Mark.bounds?_eq_some_iff {mark : Mark} {bounds : Bounds}
    (quantifier : mark.IsQuantifier) :
    mark.bounds? = some bounds ↔ mark.Repeats bounds := by
  unfold Mark.bounds? Mark.Repeats
  rcases quantifier with kind | kind | kind | ⟨kind, least, most, written⟩
  · simp [kind, eq_comm]
  · simp [kind, eq_comm]
  · simp [kind, eq_comm]
  · have proper : bounds.isProper = true ↔ ∀ most ∈ bounds.most, bounds.least ≤ most := by
      simp [Bounds.isProper, Option.all_eq_true]
    simp only [kind, Option.filter_eq_some_iff, proper]
    refine and_congr_left fun _ => ⟨fun read => ?_, Written.ofText?_toNat⟩
    obtain ⟨sameLeast, sameMost⟩ := written.toNat_of_ofText? read
    rwa [sameLeast, sameMost]

end Notation

end TextGrammar
