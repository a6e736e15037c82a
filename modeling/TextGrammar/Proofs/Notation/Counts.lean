import TextGrammar.Proofs.Notation.Spelling

/-!
Counts in braces. What is cut as a mark of bounds is an opening brace, blanks, a count, then
possibly separators with a second count or an asterisk, blanks again, and the closing brace. The
reader finds exactly these counts between the braces and tells their decimal values, or refuses the
text if one of them is beyond 32 bits.
-/

namespace TextGrammar.Notation

def decimal (digits : List Char) : Nat :=
  Nat.ofDigits 10 (digits.map fun digit => digit.toNat - '0'.toNat).reverse

theorem Written.ofText?_eq_none_iff {text : List Char} {least : Nat} {most : Option Nat}
    (written : Written text least most) :
    Bounds.ofText? text = none ↔ 2 ^ 32 - 1 < least ∨ ∃ upper ∈ most, 2 ^ 32 - 1 < upper := by
  have beyond : ∀ count, ¬count < UInt32.size ↔ 2 ^ 32 - 1 < count := by
    have size : UInt32.size = 2 ^ 32 := rfl
    omega
  rw [written.ofText?_eq]
  simp only [ite_eq_right_iff, reduceCtorEq, imp_false, not_and_or, not_forall, exists_prop, beyond]

/-- What may stand behind the first count of bounds: separators and a further count, or an asterisk
in place of it. -/
structure FurtherCount where
  gap : List Char
  digits : Option (List Char)
  parted : gap ≠ []
  parts : ∀ c ∈ gap, isCountSeparator c = true
  counts : ∀ count ∈ digits, IsCount count

namespace FurtherCount

def shown (further : FurtherCount) : List Char := further.digits.getD ['*']

theorem shown_ne_nil (further : FurtherCount) : further.shown ≠ [] := by
  unfold shown
  cases said : further.digits with
  | none => exact List.cons_ne_nil '*' []
  | some count => exact (further.counts count said).filled

theorem shown_parts_none (further : FurtherCount) :
    ∀ c ∈ further.shown, isCountSeparator c = false := by
  unfold shown
  cases said : further.digits with
  | none => exact fun c there => List.mem_singleton.mp there ▸ rfl
  | some count => exact (further.counts count said).parts_none

end FurtherCount

/-- Bounds piece by piece as they are written in braces. -/
structure Braced where
  before : List Char
  first : List Char
  further : Option FurtherCount
  behind : List Char
  before_blank : ∀ c ∈ before, isBlank c = true
  first_count : IsCount first
  behind_blank : ∀ c ∈ behind, isBlank c = true

namespace Braced

def inside (braced : Braced) : List Char :=
  let upper := braced.further.elim [] fun further => further.gap ++ further.shown
  braced.before ++ (braced.first ++ (upper ++ braced.behind))

def spelling (braced : Braced) : List Char := '{' :: (braced.inside ++ ['}'])

/-- The upper bound that is told: a count on its own is both bounds, and an asterisk is none. -/
def most (braced : Braced) : Option Nat :=
  match braced.further with
  | none => some (decimal braced.first)
  | some further => further.digits.map decimal

theorem ofDigits_eq_decimal (digits : List Char) : Bounds.ofDigits digits = decimal digits := by
  rw [decimal, Nat.ofDigits_eq_foldr, List.foldr_reverse, List.foldl_map, Bounds.ofDigits]
  congr 1
  funext value digit
  exact Nat.add_comm _ _

theorem written (braced : Braced) :
    Written braced.spelling (decimal braced.first) braced.most := by
  obtain ⟨before, first, further, behind, blank, count, blankToo⟩ := braced
  have closes : Closes (behind ++ ['}']) := ⟨behind, blankToo, rfl⟩
  cases further with
  | none =>
      exact ⟨before, first, behind ++ ['}'], by simp [spelling, inside], blank, count,
        (ofDigits_eq_decimal first).symm, .exact closes⟩
  | some further =>
      obtain ⟨gap, digits, parted, parts, counts⟩ := further
      refine ⟨before, first, gap ++ (digits.getD ['*'] ++ (behind ++ ['}'])),
        by simp [spelling, inside, FurtherCount.shown], blank, count,
        (ofDigits_eq_decimal first).symm, ?_⟩
      cases digits with
      | none => exact .unbounded parted parts closes
      | some digits =>
          have upper : Upper (decimal first) _ _ :=
            .count parted parts (counts digits rfl) closes
          rwa [ofDigits_eq_decimal] at upper

theorem exists_of_written {text : List Char} {least : Nat} {most : Option Nat}
    (written : Written text least most) : ∃ braced : Braced, text = braced.spelling := by
  obtain ⟨before, first, tail, rfl, blank, count, -, upper⟩ := written
  cases upper with
  | exact closes =>
      obtain ⟨behind, blankToo, rfl⟩ := closes
      exact ⟨⟨before, first, none, behind, blank, count, blankToo⟩, by simp [spelling, inside]⟩
  | @unbounded gap _ parted parts closes =>
      obtain ⟨behind, blankToo, rfl⟩ := closes
      exact ⟨⟨before, first, some ⟨gap, none, parted, parts, fun _ absent => nomatch absent⟩,
        behind, blank, count, blankToo⟩, by simp [spelling, inside, FurtherCount.shown]⟩
  | @count gap digits _ parted parts second closes =>
      obtain ⟨behind, blankToo, rfl⟩ := closes
      have counts : ∀ count ∈ some digits, IsCount count := by
        rintro _ ⟨⟩
        exact second
      exact ⟨⟨before, first, some ⟨gap, some digits, parted, parts, counts⟩, behind, blank, count,
        blankToo⟩, by simp [spelling, inside, FurtherCount.shown]⟩

theorem marks_spelling (braced : Braced) :
    marks braced.spelling = .ok [⟨.bounds, 0, braced.spelling⟩] := by
  have length := braced.written.boundsLength?_append []
  rw [List.append_nil] at length
  have found : lexeme? '{' (braced.inside ++ ['}']) =
      some (some .bounds, (braced.inside ++ ['}']).length) := by
    rw [lexeme?, length]
    rfl
  rw [marks, spelling, marksFrom, found]
  simp [marksFrom]

theorem fields_inside (braced : Braced) : Text.fields isCountSeparator braced.inside =
    braced.first :: braced.further.toList.map (·.shown) := by
  obtain ⟨before, first, further, behind, blank, count, blankToo⟩ := braced
  have parts := isCountSeparator_of_blanks blankToo
  rw [inside, Text.fields_gap (isCountSeparator_of_blanks blank)]
  cases further with
  | none => exact Text.fields_word count.filled count.parts_none parts
  | some further =>
      simp only [Option.elim_some, Option.toList_some, List.map_cons, List.map_nil,
        List.append_assoc]
      rw [Text.fields_word_gap count.filled count.parts_none further.parted further.parts,
        Text.fields_word further.shown_ne_nil further.shown_parts_none parts]

theorem ofText?_eq_none_iff (braced : Braced) :
    Bounds.ofText? braced.spelling = none ↔ 2 ^ 32 - 1 < decimal braced.first ∨
      ∃ further ∈ braced.further, ∃ digits ∈ further.digits, 2 ^ 32 - 1 < decimal digits := by
  rw [braced.written.ofText?_eq_none_iff, most]
  cases braced.further with
  | none => simp
  | some further => simp

end Braced

/-- What is cut as a mark of bounds is a spelling of counts in braces, and such a spelling is one
mark. The reader finds the counts in it and nothing else. It refuses it if a count does not fit in
32 bits, and tells the decimal values of the counts otherwise. -/
theorem Bounds.ofText?_counts :
    (∀ text, marks text = .ok [⟨.bounds, 0, text⟩] ↔
      ∃ braced : Braced, text = braced.spelling) ∧
    (∀ body read, marks body = .ok read → ∀ mark ∈ read, mark.kind = .bounds →
      ∃ braced : Braced, mark.chars = braced.spelling) ∧
    ∀ braced : Braced,
      Text.fields isCountSeparator braced.inside =
        braced.first :: braced.further.toList.map (·.shown) ∧
      (ofText? braced.spelling = none ↔ 2 ^ 32 - 1 < decimal braced.first ∨
        ∃ further ∈ braced.further, ∃ digits ∈ further.digits, 2 ^ 32 - 1 < decimal digits) ∧
      ∀ bounds, ofText? braced.spelling = some bounds →
        bounds.least.toNat = decimal braced.first ∧
          bounds.most.map UInt32.toNat = braced.most := by
  have cut : ∀ body read, marks body = .ok read → ∀ mark ∈ read, mark.kind = .bounds →
      ∃ braced : Braced, mark.chars = braced.spelling := by
    intro body read cut mark member kind
    obtain ⟨least, most, written⟩ := written_of_mem_marks cut member kind
    exact Braced.exists_of_written written
  refine ⟨fun text => ⟨fun single => ?_, ?_⟩, cut, fun braced =>
    ⟨braced.fields_inside, braced.ofText?_eq_none_iff, fun bounds => ?_⟩⟩
  · exact cut text _ single _ List.mem_cons_self rfl
  · rintro ⟨braced, rfl⟩
    exact braced.marks_spelling
  · exact braced.written.toNat_of_ofText?

/-- Zeros in front of a count change nothing, and the largest number of 32 bits is not refused. -/
theorem Bounds.ofText?_counts_largest :
    (∃ braced : Braced, "{1 *}".toList = braced.spelling) ∧
    ∃ braced : Braced, braced.spelling = "\x7b 007 -\t4294967295\x7d".toList ∧
      Text.fields isCountSeparator braced.inside = ["007".toList, "4294967295".toList] ∧
      ofText? braced.spelling = some ⟨7, some 4294967295⟩ ∧
      decimal braced.first = 7 ∧ braced.most = some 4294967295 := by
  have largest : IsCount ['4', '2', '9', '4', '9', '6', '7', '2', '9', '5'] :=
    ⟨List.cons_ne_nil _ _, List.all_eq_true.mp rfl⟩
  let further : FurtherCount :=
    ⟨[' ', '-', '\t'], some _, List.cons_ne_nil _ _, List.all_eq_true.mp rfl,
      fun _ same => Option.some.inj same ▸ largest⟩
  let braced : Braced :=
    ⟨[' '], ['0', '0', '7'], some further, [], List.all_eq_true.mp rfl,
      ⟨List.cons_ne_nil _ _, List.all_eq_true.mp rfl⟩, List.forall_mem_nil _⟩
  constructor
  · have cut : marks "A{1 *}".toList =
        .ok [⟨.name, 0, ['A']⟩, ⟨.bounds, 1, "{1 *}".toList⟩] := by cbv
    exact ofText?_counts.2.1 _ _ cut _ (List.mem_cons_of_mem _ List.mem_cons_self) rfl
  · obtain ⟨fields, -, values⟩ := ofText?_counts.2.2 braced
    have read : ofText? braced.spelling = some ⟨7, some 4294967295⟩ := by cbv
    obtain ⟨least, most⟩ := values _ read
    exact ⟨braced, by cbv, fields.trans (by cbv), read, least.symm, by simpa using most.symm⟩

end TextGrammar.Notation
