import Mathlib
import TextGrammar.Proofs.Notation.Reading

/-!
What a rule body is refused for. A violation shows at the mark that comes up next or at the end,
which the marks read before and that mark alone tell: whether an alternative has to begin there,
and which parentheses are open. Of all violations in a body the one that shows first is reported,
and the marks are read up to there as if there were no other.
-/

namespace TextGrammar.Notation

def openings (before : List Mark) : List Mark :=
  before.foldl (fun opened mark =>
    match mark.kind with
    | .opening => mark :: opened
    | .closing => opened.tail
    | _ => opened) []

/-- Whether an alternative has to begin behind some marks: at the start of a body or a group, or
behind a bar. -/
def Begins (before : List Mark) : Prop :=
  ∀ mark ∈ before.getLast?, mark.kind = .opening ∨ mark.kind = .bar

def MarkKind.isQuantifier : MarkKind → Bool
  | .optional | .star | .plus | .bounds => true
  | .name | .opening | .closing | .bar => false

/-- Whether a count does not fit in 32 bits or the upper one is below the lower one. -/
def Improper (least : Nat) (most : Option Nat) : Prop :=
  UInt32.size ≤ least ∨ ∃ upper ∈ most, UInt32.size ≤ upper ∨ upper < least

/-- What is wrong where a mark comes up behind others, or the end does, which is no mark. Of two
things that are wrong there, the one of rank 0 is told. -/
inductive Violates (before : List Mark) : Option Mark → Nat → BodyError → Prop where
  | improper {mark : Mark} {least : Nat} {most : Option Nat} (kind : mark.kind = .bounds)
      (written : Written mark.chars least most) (improper : Improper least most) :
      Violates before (some mark) 0 (.invalidBounds (String.ofList mark.chars) mark.start)
  | quantifier {mark : Mark} (quantifies : mark.kind.isQuantifier = true)
      (begins : Begins before) : Violates before (some mark) 1 (.danglingQuantifier mark.start)
  | bar {mark : Mark} (bars : mark.kind = .bar) (begins : Begins before) :
      Violates before (some mark) 0 (.danglingAlternative mark.start)
  /-- A bar has nothing behind it. -/
  | trailing {bar : Mark} {next : Option Mark} (last : before.getLast? = some bar)
      (bars : bar.kind = .bar) (ends : ∀ mark ∈ next, mark.kind = .closing) :
      Violates before next 0 (.danglingAlternative bar.start)
  | emptyGroup {opening mark : Mark} (last : before.getLast? = some opening)
      (opens : opening.kind = .opening) (closes : mark.kind = .closing) :
      Violates before (some mark) 1 (.emptyGroup opening.start)
  | stray {mark : Mark} (closes : mark.kind = .closing) (none : openings before = []) :
      Violates before (some mark) 1 (.unbalancedGroup mark.start)
  | unclosed {opening : Mark} {outer : List Mark} (opened : openings before = opening :: outer) :
      Violates before none 1 (.unbalancedGroup opening.start)

/-- Whether an error is told of what is wrong at a place. -/
def Tells (before : List Mark) (next : Option Mark) (error : BodyError) : Prop :=
  ∃ rank, Violates before next rank error ∧ ∀ other which, Violates before next other which →
    rank < other ∨ rank = other ∧ error = which

def Lawful (before : List Mark) (next : Option Mark) : Prop :=
  ∀ rank error, ¬Violates before next rank error

/-- Whether marks are refused for what is wrong with them first, from left to right. -/
def ShowsFirst (read : List Mark) (error : BodyError) : Prop :=
  ∃ before after, read = before ++ after ∧ Tells before after.head? error ∧
    ∀ front back, read = front ++ back → front.length < before.length → Lawful front back.head?

def BodyError.offset? : BodyError → Option Nat
  | .empty => none
  | .unexpectedCharacter offset | .unbalancedGroup offset | .emptyGroup offset
  | .danglingQuantifier offset | .danglingAlternative offset | .invalidBounds _ offset =>
      some offset

section Openings

theorem openings_concat (before : List Mark) (mark : Mark) :
    openings (before ++ [mark]) =
      match mark.kind with
      | .opening => mark :: openings before
      | .closing => (openings before).tail
      | _ => openings before := by
  rw [openings, List.foldl_append]
  rfl

theorem mem_of_mem_openings {before : List Mark} {opening : Mark}
    (member : opening ∈ openings before) : opening ∈ before := by
  induction before using List.reverseRecOn with
  | nil => cases member
  | append_singleton earlier mark ih =>
      rw [openings_concat] at member
      rw [List.mem_append, List.mem_singleton]
      split at member
      · rcases List.mem_cons.mp member with same | outer
        · exact .inr same
        · exact .inl (ih outer)
      · exact .inl (ih (List.mem_of_mem_tail member))
      · exact .inl (ih member)

theorem openings_of_getLast? {before : List Mark} {opening : Mark}
    (last : before.getLast? = some opening) (opens : opening.kind = .opening) :
    ∃ outer, openings before = opening :: outer := by
  obtain ⟨earlier, rfl⟩ := List.getLast?_eq_some_iff.mp last
  rw [openings_concat, opens]
  exact ⟨_, rfl⟩

end Openings

theorem Violates.offset {before : List Mark} {next : Option Mark} {rank : Nat} {error : BodyError}
    (violates : Violates before next rank error) :
    ∃ mark, (mark ∈ before ∨ mark ∈ next) ∧ error.offset? = some mark.start := by
  cases violates with
  | improper | quantifier | bar | stray => exact ⟨_, .inr rfl, rfl⟩
  | trailing last | emptyGroup last => exact ⟨_, .inl (List.mem_of_getLast? last), rfl⟩
  | unclosed opened =>
      exact ⟨_, .inl (mem_of_mem_openings (opened ▸ List.mem_cons_self)), rfl⟩

theorem Violates.ne_unexpectedCharacter {before : List Mark} {next : Option Mark} {rank : Nat}
    {error : BodyError} (violates : Violates before next rank error) (offset : Nat) :
    error ≠ .unexpectedCharacter offset := by
  cases violates <;> exact fun same => nomatch same

inductive Level.Behind : Level → Option Mark → Prop where
  | start {last : Option Mark} (opens : ∀ mark ∈ last, mark.kind = .opening) : Behind .empty last
  | bar {phrase : Phrase} {mark : Mark} (bars : mark.kind = .bar) :
      Behind ⟨some phrase, some mark.start⟩ (some mark)
  | part {phrase : Phrase} {mark : Mark} (opens : mark.kind ≠ .opening)
      (bars : mark.kind ≠ .bar) : Behind ⟨some phrase, none⟩ (some mark)

structure Past (around : List Interrupted) (level : Level) (before : List Mark) : Prop where
  behind : level.Behind before.getLast?
  around : around.map (·.opening) = (openings before).map (·.start)

theorem Written.bounds?_eq_none_iff {mark : Mark} {least : Nat} {most : Option Nat}
    (kind : mark.kind = .bounds) (written : Written mark.chars least most) :
    mark.bounds? = none ↔ Improper least most := by
  have read : mark.bounds? = (Bounds.ofText? mark.chars).filter (·.isProper) := by
    simp [Mark.bounds?, kind]
  rw [read, written.ofText?_eq, Improper]
  by_cases small : least < UInt32.size
  · cases most with
    | none => simp [small, Bounds.isProper]
    | some upper =>
        by_cases fits : upper < UInt32.size
        · have order : UInt32.ofNat least ≤ UInt32.ofNat upper ↔ least ≤ upper := by
            have lower : (UInt32.ofNat least).toNat = least := UInt32.toNat_ofNat_of_lt small
            have higher : (UInt32.ofNat upper).toNat = upper := UInt32.toNat_ofNat_of_lt fits
            rw [UInt32.le_iff_toNat_le, lower, higher]
          simp [small, fits, Bounds.isProper, order]
          omega
        · simp [fits]
          omega
  · simp [small]
    omega

variable {around : List Interrupted} {level : Level} {before : List Mark} {mark : Mark}

theorem Mark.bounds?_eq_none_iff (quantifies : mark.kind.isQuantifier = true)
    (braces : mark.kind = .bounds → ∃ least most, Written mark.chars least most) :
    mark.bounds? = none ↔ mark.kind = .bounds ∧
      ∃ least most, Written mark.chars least most ∧ Improper least most := by
  constructor
  · intro read
    cases kind : mark.kind with
    | bounds =>
        obtain ⟨least, most, written⟩ := braces kind
        exact ⟨rfl, least, most, written, (written.bounds?_eq_none_iff kind).mp read⟩
    | optional | star | plus => simp [bounds?, kind] at read
    | name | opening | closing | bar => rw [kind] at quantifies; cases quantifies
  · rintro ⟨kind, least, most, written, improper⟩
    exact (written.bounds?_eq_none_iff kind).mpr improper

theorem Past.part {phrase : Phrase} (past : Past around level before)
    (simple : mark.kind = .name ∨ mark.kind.isQuantifier = true) :
    Past around ⟨some phrase, none⟩ (before ++ [mark]) := by
  have kinds : mark.kind ≠ .opening ∧ mark.kind ≠ .closing ∧ mark.kind ≠ .bar := by
    rcases simple with name | quantifies
    · simp [name]
    · refine ⟨?_, ?_, ?_⟩ <;> intro kind <;> rw [kind] at quantifies <;> cases quantifies
  refine ⟨?_, ?_⟩
  · rw [List.getLast?_concat]
    exact .part kinds.1 kinds.2.2
  · rw [openings_concat, past.around]
    split <;> simp_all

theorem Level.exists_push (level : Level) (part : Phrase) :
    ∃ phrase, level.push part = ⟨some phrase, none⟩ := by
  unfold push
  split <;> exact ⟨_, rfl⟩

theorem readMarks_of_quantifies (quantifies : mark.kind.isQuantifier = true) (rest : List Mark) :
    readMarks around level (mark :: rest) =
      match level.take mark with
      | .error error => .error error
      | .ok next => readMarks around next rest := by
  cases kind : mark.kind with
  | optional | star | plus | bounds =>
      cases taken : level.take mark <;> simp only [readMarks, kind, taken]
  | name | opening | closing | bar => rw [kind] at quantifies; cases quantifies

/-- Whether reading goes on behind a mark at which nothing is wrong, or stops there and tells what
is. -/
inductive Proceeds (around : List Interrupted) (level : Level) (before : List Mark) (mark : Mark) :
    Prop where
  | on (outside : List Interrupted) (inner : Level) (lawful : Lawful before (some mark))
      (past : Past outside inner (before ++ [mark]))
      (same : ∀ rest, readMarks around level (mark :: rest) = readMarks outside inner rest)
  | stops {error : BodyError} (tells : Tells before (some mark) error)
      (same : ∀ rest, readMarks around level (mark :: rest) = .error error)

namespace Past

theorem name (past : Past around level before) (name : mark.kind = .name) :
    Proceeds around level before mark := by
  obtain ⟨phrase, pushed⟩ := level.exists_push (.reference (String.ofList mark.chars))
  refine .on around ⟨some phrase, none⟩ ?_ (past.part (.inl name)) fun rest => ?_
  · intro rank error violates
    cases violates <;> simp_all [MarkKind.isQuantifier]
  · simp [readMarks, name, pushed]

theorem opening (past : Past around level before) (opens : mark.kind = .opening) :
    Proceeds around level before mark := by
  refine .on (⟨level, mark.start⟩ :: around) .empty ?_ ⟨?_, ?_⟩ fun rest => ?_
  · intro rank error violates
    cases violates <;> simp_all [MarkKind.isQuantifier]
  · rw [List.getLast?_concat]
    exact .start fun last same => Option.mem_some.mp same ▸ opens
  · simp [openings_concat, opens, past.around]
  · simp [readMarks, opens]

theorem begins_or_part (past : Past around level before) :
    (Begins before ∧ (∀ bounds, level.quantify bounds = none) ∧
      ∀ offset, level.alternate offset = none) ∨
    (¬Begins before ∧ ∃ phrase, level = ⟨some phrase, none⟩) := by
  have behind := past.behind
  unfold Begins
  generalize before.getLast? = last at behind
  cases behind with
  | start opens =>
      refine .inl ⟨?_, fun _ => rfl, fun _ => rfl⟩
      exact fun mark there => .inl (opens mark there)
  | bar bars =>
      refine .inl ⟨?_, fun _ => rfl, fun _ => rfl⟩
      exact fun mark there => .inr (Option.mem_some.mp there ▸ bars)
  | part opens bars => exact .inr ⟨by simp [opens, bars], _, rfl⟩

theorem bar (past : Past around level before) (bars : mark.kind = .bar) :
    Proceeds around level before mark := by
  rcases past.begins_or_part with ⟨begins, -, refused⟩ | ⟨goes, phrase, rfl⟩
  · refine .stops ⟨0, .bar bars begins, ?_⟩ fun rest => ?_
    · intro rank error violates
      cases violates <;> simp_all [MarkKind.isQuantifier]
    · simp [readMarks, bars, refused]
  · refine .on around ⟨some phrase.toChoice, some mark.start⟩ ?_ ⟨?_, ?_⟩ fun rest => ?_
    · intro rank error violates
      cases violates <;> simp_all
    · rw [List.getLast?_concat]
      exact .bar bars
    · simp [openings_concat, bars, past.around]
    · simp [readMarks, bars, Level.alternate]

theorem quantifier (past : Past around level before) (quantifies : mark.kind.isQuantifier = true)
    (braces : mark.kind = .bounds → ∃ least most, Written mark.chars least most) :
    Proceeds around level before mark := by
  cases read : mark.bounds? with
  | none =>
      -- bad bounds are told also where there is nothing to repeat
      have taken : level.take mark =
          .error (.invalidBounds (String.ofList mark.chars) mark.start) := by
        simp [Level.take, read]
      obtain ⟨kind, least, most, written, improper⟩ :=
        (Mark.bounds?_eq_none_iff quantifies braces).mp read
      refine .stops ⟨0, .improper kind written improper, ?_⟩ fun rest => ?_
      · intro rank error violates
        cases violates <;> simp_all
      · rw [readMarks_of_quantifies quantifies, taken]
  | some bounds =>
      have proper : ∀ {least most}, mark.kind = .bounds → Written mark.chars least most →
          ¬Improper least most := by
        intro least most kind written improper
        rw [(written.bounds?_eq_none_iff kind).mpr improper] at read
        cases read
      rcases past.begins_or_part with ⟨begins, refused, -⟩ | ⟨goes, phrase, rfl⟩
      · have taken : level.take mark = .error (.danglingQuantifier mark.start) := by
          simp [Level.take, read, refused]
        refine .stops ⟨1, .quantifier quantifies begins, ?_⟩ fun rest => ?_
        · intro rank error violates
          cases violates with
          | improper kind written improper => exact absurd improper (proper kind written)
          | _ => simp_all [MarkKind.isQuantifier]
        · rw [readMarks_of_quantifies quantifies, taken]
      · have taken : Level.take ⟨some phrase, none⟩ mark =
            .ok ⟨some (phrase.quantify bounds), none⟩ := by
          simp [Level.take, read, Level.quantify]
        refine .on around ⟨some (phrase.quantify bounds), none⟩ ?_ (past.part (.inr quantifies))
          fun rest => ?_
        · intro rank error violates
          cases violates with
          | improper kind written improper => exact absurd improper (proper kind written)
          | _ => simp_all [MarkKind.isQuantifier]
        · rw [readMarks_of_quantifies quantifies, taken]

theorem openings_eq_nil (past : Past [] level before) : openings before = [] := by
  simpa using past.around.symm

theorem openings_eq_cons {outer : Interrupted} (past : Past (outer :: around) level before) :
    ∃ opening others, openings before = opening :: others ∧ outer.opening = opening.start ∧
      around.map (·.opening) = others.map (·.start) := by
  have same := past.around
  cases opened : openings before with
  | nil => rw [opened] at same; cases same
  | cons opening others =>
      rw [opened] at same
      exact ⟨opening, others, rfl, List.cons.inj same⟩

theorem around_of_getLast? (past : Past around level before) {opening : Mark}
    (last : before.getLast? = some opening) (opens : opening.kind = .opening) :
    ∃ outer others inside, around = outer :: others ∧ outer.opening = opening.start ∧
      openings before = opening :: inside := by
  obtain ⟨inside, opened⟩ := openings_of_getLast? last opens
  have same := past.around
  rw [opened] at same
  cases around with
  | nil => cases same
  | cons outer others => exact ⟨outer, others, inside, rfl, (List.cons.inj same).1, opened⟩

theorem around_of_nil (past : Past around level []) : around = [] := by
  simpa [openings] using past.around

theorem closing (past : Past around level before) (closes : mark.kind = .closing) :
    Proceeds around level before mark := by
  have behind := past.behind
  generalize final : before.getLast? = last at behind
  cases behind with
  | start opens =>
      cases last with
      | none =>
          cases List.getLast?_eq_none_iff.mp final
          cases past.around_of_nil
          refine .stops ⟨1, .stray closes rfl, ?_⟩ fun rest => ?_
          · intro rank error violates
            cases violates <;> simp_all [MarkKind.isQuantifier]
          · simp [readMarks, closes, Level.finish, Level.empty]
      | some opening =>
          have opens := opens opening rfl
          obtain ⟨outer, others, inside, rfl, same, opened⟩ := past.around_of_getLast? final opens
          refine .stops ⟨1, .emptyGroup final opens closes, ?_⟩ fun rest => ?_
          · intro rank error violates
            cases violates <;> simp_all [MarkKind.isQuantifier]
          · simp [readMarks, closes, Level.finish, Level.closeGroup, Level.empty, same]
  | @bar phrase bar bars =>
      refine .stops ⟨0, .trailing final bars (by simp [closes]), ?_⟩ fun rest => ?_
      · intro rank error violates
        cases violates <;> simp_all [MarkKind.isQuantifier]
      · cases around <;> simp [readMarks, closes, Level.finish, Level.closeGroup]
  | @part phrase last opens bars =>
      cases around with
      | nil =>
          refine .stops ⟨1, .stray closes past.openings_eq_nil, ?_⟩ fun rest => ?_
          · intro rank error violates
            cases violates <;> simp_all [MarkKind.isQuantifier]
          · simp [readMarks, closes, Level.finish]
      | cons outer around =>
          obtain ⟨opening, others, opened, -, outside⟩ := past.openings_eq_cons
          obtain ⟨whole, pushed⟩ := outer.level.exists_push (.group phrase)
          refine .on around ⟨some whole, none⟩ ?_ ⟨?_, ?_⟩ fun rest => ?_
          · intro rank error violates
            cases violates <;> simp_all [MarkKind.isQuantifier]
          · rw [List.getLast?_concat]
            exact .part (by simp [closes]) (by simp [closes])
          · simp [openings_concat, closes, opened, outside]
          · simp [readMarks, closes, Level.finish, Level.closeGroup, pushed]

theorem proceeds (past : Past around level before)
    (braces : mark.kind = .bounds → ∃ least most, Written mark.chars least most) :
    Proceeds around level before mark := by
  cases kind : mark.kind with
  | name => exact past.name kind
  | opening => exact past.opening kind
  | closing => exact past.closing kind
  | bar => exact past.bar kind
  | optional | star | plus | bounds =>
      exact past.quantifier (by rw [kind]; rfl) braces

theorem ends (past : Past around level before) (some : before ≠ []) :
    (Lawful before none ∧ ∃ phrase, readMarks around level [] = .ok phrase) ∨
      ∃ error, Tells before none error ∧ readMarks around level [] = .error error := by
  have behind := past.behind
  generalize final : before.getLast? = last at behind
  cases behind with
  | start opens =>
      cases last with
      | none => exact absurd (List.getLast?_eq_none_iff.mp final) some
      | some opening =>
          have opens := opens opening rfl
          obtain ⟨outer, others, inside, rfl, same, opened⟩ := past.around_of_getLast? final opens
          refine .inr ⟨_, ⟨1, .unclosed opened, ?_⟩, ?_⟩
          · intro rank error violates
            cases violates <;> simp_all
          · simp [readMarks, Level.finish, Level.empty, same]
  | @bar phrase bar bars =>
      refine .inr ⟨_, ⟨0, .trailing final bars (by simp), ?_⟩, ?_⟩
      · intro rank error violates
        cases violates <;> simp_all
      · simp [readMarks, Level.finish]
  | @part phrase last opens bars =>
      cases around with
      | nil =>
          refine .inl ⟨?_, phrase, by simp [readMarks, Level.finish]⟩
          have none := past.openings_eq_nil
          intro rank error violates
          cases violates <;> simp_all
      | cons outer around =>
          obtain ⟨opening, others, opened, same, -⟩ := past.openings_eq_cons
          refine .inr ⟨_, ⟨1, .unclosed opened, ?_⟩, ?_⟩
          · intro rank error violates
            cases violates <;> simp_all
          · simp [readMarks, Level.finish, same]

end Past

def LawfulTo (count : Nat) (before after : List Mark) : Prop :=
  ∀ front back, after = front ++ back → front.length < count → Lawful (before ++ front) back.head?

theorem LawfulTo.cons {count : Nat} {rest : List Mark} (here : Lawful before (some mark))
    (later : LawfulTo count (before ++ [mark]) rest) :
    LawfulTo (count + 1) before (mark :: rest) := by
  intro front back same bound
  cases front with
  | nil =>
      cases same
      rwa [List.append_nil]
  | cons first others =>
      obtain ⟨rfl, rfl⟩ := List.cons.inj same
      rw [List.append_cons]
      exact later others back rfl (Nat.lt_of_succ_lt_succ bound)

/-- Reading goes through all marks if nothing is wrong with them, and else stops where something
is wrong first. -/
theorem Past.lawful_or_tells {after : List Mark} (past : Past around level before)
    (braces : ∀ mark ∈ after, mark.kind = .bounds → ∃ least most, Written mark.chars least most)
    (some : before ++ after ≠ []) :
    ((∃ phrase, readMarks around level after = .ok phrase) ∧
      LawfulTo (after.length + 1) before after) ∨
    ∃ error front back, readMarks around level after = .error error ∧ after = front ++ back ∧
      Tells (before ++ front) back.head? error ∧ LawfulTo front.length before after := by
  induction after generalizing around level before with
  | nil =>
      rcases past.ends (by simpa using some) with ⟨lawful, read⟩ | ⟨error, tells, refused⟩
      · refine .inl ⟨read, fun front back same _ => ?_⟩
        obtain ⟨rfl, rfl⟩ := List.append_eq_nil_iff.mp same.symm
        rwa [List.append_nil]
      · refine .inr ⟨error, [], [], refused, rfl, by rwa [List.append_nil], ?_⟩
        exact fun front back _ bound => absurd bound (Nat.not_lt_zero _)
  | cons mark rest ih =>
      obtain ⟨here, others⟩ := List.forall_mem_cons.mp braces
      rcases past.proceeds here with ⟨outside, inner, lawful, onward, same⟩ | ⟨tells, same⟩
      · rw [same]
        rcases ih onward others (by simp) with
          ⟨read, later⟩ | ⟨error, front, back, refused, parts, tells, later⟩
        · exact .inl ⟨read, later.cons lawful⟩
        · refine .inr ⟨error, mark :: front, back, refused, by rw [parts, List.cons_append], ?_,
            later.cons lawful⟩
          rwa [List.append_cons]
      · refine .inr ⟨_, [], mark :: rest, same rest, rfl, by rwa [List.append_nil], ?_⟩
        exact fun front back _ bound => absurd bound (Nat.not_lt_zero _)

theorem Tells.unique {next : Option Mark} {error other : BodyError}
    (one : Tells before next error) (two : Tells before next other) : error = other := by
  obtain ⟨rank, violates, first⟩ := one
  obtain ⟨rank', violates', first'⟩ := two
  rcases first _ _ violates' with sooner | ⟨-, same⟩
  · rcases first' _ _ violates with later | ⟨-, same⟩
    · exact absurd sooner (Nat.lt_asymm later)
    · exact same.symm
  · exact same

theorem readMarks_eq_error_iff {read : List Mark} {error : BodyError}
    (braces : ∀ mark ∈ read, mark.kind = .bounds → ∃ least most, Written mark.chars least most)
    (some : read ≠ []) : readMarks [] .empty read = .error error ↔ ShowsFirst read error := by
  have start : Past [] .empty [] := ⟨.start (fun mark none => nomatch none), rfl⟩
  have result := start.lawful_or_tells braces some
  constructor
  · intro refused
    rcases result with ⟨⟨phrase, accepted⟩, -⟩ | ⟨_, front, back, told, parts, tells, lawful⟩
    · cases accepted.symm.trans refused
    · cases told.symm.trans refused
      exact ⟨front, back, parts, tells, lawful⟩
  · rintro ⟨front, back, rfl, tells, lawful⟩
    obtain ⟨rank, violates, -⟩ := id tells
    rcases result with ⟨-, fine⟩ | ⟨_, front', back', told, parts, tells', lawful'⟩
    · have bound : front.length < (front ++ back).length + 1 := by
        rw [List.length_append]
        omega
      exact absurd violates (fine front back rfl bound rank error)
    · obtain ⟨rank', violates', -⟩ := id tells'
      -- neither place comes before the other, since nothing is wrong before either
      rcases Nat.lt_trichotomy front.length front'.length with before | same | behind
      · exact absurd violates (lawful' front back rfl before rank error)
      · obtain ⟨rfl, rfl⟩ := List.append_inj parts same
        rw [told, tells.unique tells']
      · exact absurd violates' (lawful front' back' parts behind rank' _)

theorem ShowsFirst.offset {read : List Mark} {error : BodyError} (first : ShowsFirst read error) :
    ∃ mark ∈ read, error.offset? = some mark.start := by
  obtain ⟨before, after, rfl, ⟨rank, violates, -⟩, -⟩ := first
  obtain ⟨mark, place, told⟩ := violates.offset
  refine ⟨mark, List.mem_append.mpr (place.imp_right fun next => ?_), told⟩
  exact List.mem_of_mem_head? next

section Body

variable {body : String} {read : List Mark}

theorem ofBody_of_error {offset : Nat} (cut : marks body.toList = .error offset) :
    Phrase.ofBody body = .error (.unexpectedCharacter offset) := by
  rw [Phrase.ofBody, cut]

theorem ofBody_of_nil (cut : marks body.toList = .ok []) :
    Phrase.ofBody body = .error .empty := by
  rw [Phrase.ofBody, cut]

theorem ofBody_eq_error_iff_showsFirst (cut : marks body.toList = .ok read) (some : read ≠ [])
    (error : BodyError) : Phrase.ofBody body = .error error ↔ ShowsFirst read error := by
  have same : Phrase.ofBody body = readMarks [] .empty read := by
    rw [Phrase.ofBody, cut]
    cases read with
    | nil => exact absurd rfl some
    | cons mark rest => rfl
  rw [same]
  exact readMarks_eq_error_iff (fun mark member => written_of_mem_marks cut member) some

end Body

/-- A rule body is refused where no lexeme starts, or for having no marks, or else for what is
wrong with its marks first, which is told by the offset of one of them. -/
theorem Phrase.ofBody_eq_error_iff (body : String) :
    (∀ offset, ofBody body = .error (.unexpectedCharacter offset) ↔
      marks body.toList = .error offset) ∧
    (ofBody body = .error .empty ↔ marks body.toList = .ok []) ∧
    ∀ read, marks body.toList = .ok read → read ≠ [] →
      ∀ error, (ofBody body = .error error ↔ ShowsFirst read error) ∧
        (ShowsFirst read error → ∃ mark ∈ read, error.offset? = some mark.start) := by
  have cases : (∃ offset, marks body.toList = .error offset) ∨ marks body.toList = .ok [] ∨
      ∃ read, marks body.toList = .ok read ∧ read ≠ [] := by
    cases cut : marks body.toList with
    | error offset => exact .inl ⟨offset, rfl⟩
    | ok read =>
        cases read with
        | nil => exact .inr (.inl rfl)
        | cons mark rest => exact .inr (.inr ⟨_, rfl, List.cons_ne_nil mark rest⟩)
  refine ⟨fun offset => ⟨fun refused => ?_, ofBody_of_error⟩,
    ⟨fun refused => ?_, ofBody_of_nil⟩, ?_⟩
  · rcases cases with ⟨place, cut⟩ | cut | ⟨read, cut, some⟩
    · cases (ofBody_of_error cut).symm.trans refused
      exact cut
    · cases (ofBody_of_nil cut).symm.trans refused
    · obtain ⟨_, _, -, ⟨_, violates, -⟩, -⟩ :=
        (ofBody_eq_error_iff_showsFirst cut some _).mp refused
      exact absurd rfl (violates.ne_unexpectedCharacter offset)
  · rcases cases with ⟨place, cut⟩ | cut | ⟨read, cut, some⟩
    · cases (ofBody_of_error cut).symm.trans refused
    · exact cut
    · obtain ⟨_, -, told⟩ := ((ofBody_eq_error_iff_showsFirst cut some _).mp refused).offset
      cases told
  · intro read cut some error
    exact ⟨ofBody_eq_error_iff_showsFirst cut some error, ShowsFirst.offset⟩

/-- The parenthesis has no partner, and the bounds behind it are the wrong way round, but it is the
bar in front of it that is told. -/
theorem Phrase.ofBody_eq_error_iff_bar : ∃ read, marks "A|){3,1}".toList = .ok read ∧
    ShowsFirst read (.danglingAlternative 1) := by
  obtain ⟨read, cut, some, refused⟩ : ∃ read, marks "A|){3,1}".toList = .ok read ∧ read ≠ [] ∧
      ofBody "A|){3,1}" = .error (.danglingAlternative 1) :=
    ⟨_, by cbv, List.cons_ne_nil _ _, by cbv⟩
  exact ⟨read, cut, ((ofBody_eq_error_iff _).2.2 read cut some _).1.mp refused⟩

end TextGrammar.Notation
