import TextGrammar.Proofs.Notation.Derivation

/-!
Reading a rule body gives what its marks say. While the marks are taken from left to right,
each open level of parentheses shows those it has taken so far.
-/

namespace TextGrammar.Notation

open Phrase (ofParts ofAlternatives)

theorem Mark.Repeats.bounds? {mark : Mark} {bounds : Bounds} (repeats : mark.Repeats bounds) :
    mark.bounds? = some bounds := by
  have quantifier : mark.IsQuantifier := by
    have meant := repeats
    unfold Mark.Repeats at meant
    unfold Mark.IsQuantifier
    cases kind : mark.kind <;> rw [kind] at meant <;> simp_all
    exact ⟨_, _, meant.1⟩
  exact (Mark.bounds?_eq_some_iff quantifier).mpr repeats

section Complete

variable {around : List Interrupted} {level next : Level} {rest : List Mark}

inductive Level.Grown : Level → Prop where
  | fresh (bar : Nat) (done : List Phrase) : Grown (.fresh bar done)
  | filled (done : List Phrase) {parts : List Phrase} (some : parts ≠ [])
      (isPart : ∀ phrase ∈ parts, phrase.IsPart) : Grown (.filled done parts)

theorem Level.Grown.quantify_push {level : Level} (grown : level.Grown) {part : Phrase}
    (isPart : part.IsPart) (bounds : Bounds) :
    (level.push part).quantify bounds = some (level.push (.repeated bounds part)) := by
  cases grown with
  | fresh bar done =>
      rw [Level.push_fresh, Level.push_fresh]
      exact @Level.quantify_filled done [] part isPart bounds
  | filled done some known =>
      rw [Level.push_filled some known, Level.push_filled some known]
      exact Level.quantify_filled isPart bounds

theorem readMarks_repeats {mark : Mark} {bounds : Bounds} (repeats : mark.Repeats bounds)
    (quantified : level.quantify bounds = some next) :
    readMarks around level (mark :: rest) = readMarks around next rest := by
  have taken : level.take mark = .ok next := by
    rw [Level.take, repeats.bounds?]
    simp only [quantified]
  unfold Mark.Repeats at repeats
  cases kind : mark.kind <;> rw [kind] at repeats <;>
    first
    | exact absurd repeats id
    | simp only [readMarks, kind, taken]

/-- What reading marks of a form, with any marks behind them, does to a level. -/
def Form.Grows (marks : List Mark) : Form → Prop
  | .part phrase => ∀ (level : Level), level.Grown → ∀ around rest,
      readMarks around level (marks ++ rest) = readMarks around (level.push phrase) rest
  | .parts phrases => ∀ bar done around rest,
      readMarks around (.fresh bar done) (marks ++ rest) =
        readMarks around (.filled done phrases) rest
  | .alternatives phrases => ∀ around rest,
      readMarks around .empty (marks ++ rest) = readMarks around (.closed phrases) rest

theorem Derives.grows {marks : List Mark} {form : Form} (derives : Derives marks form) :
    form.Grows marks := by
  induction derives with
  | name kind =>
      intro level _ around rest
      simp only [List.singleton_append, readMarks, kind]
  | @group opening closing inner alternatives opens inside closes ih =>
      -- what is inside is read on a level of its own, which the closing mark puts back
      intro level _ around rest
      simp only [List.cons_append, List.append_assoc, readMarks, opens]
      rw [ih]
      simp only [readMarks, closes]
      rfl
  | @repeated front mark body bounds head quantifier ih =>
      intro level grown around rest
      rw [List.append_assoc, ih level grown, List.singleton_append]
      exact readMarks_repeats quantifier (grown.quantify_push head.proper bounds)
  | onePart only ih =>
      intro bar done around rest
      rw [ih _ (.fresh bar done), Level.push_fresh]
  | nextPart earlier last ihEarlier ihLast =>
      intro bar done around rest
      obtain ⟨some, isPart⟩ := earlier.proper
      rw [List.append_assoc, ihEarlier, ihLast _ (.filled done some isPart),
        Level.push_filled some isPart]
  | oneAlternative only ih => exact ih 0 []
  | @nextAlternative front back bar alternatives parts earlier bars last ihEarlier ihLast =>
      intro around rest
      obtain ⟨some, single⟩ := earlier.proper
      have alternated := Level.alternate_closed some single bar.start
      rw [List.append_assoc, ihEarlier]
      simp only [List.cons_append, readMarks, bars, alternated]
      exact ihLast bar.start alternatives around rest

end Complete

section Sound

inductive Opened : List Phrase → List Mark → Prop where
  | start : Opened [] []
  | behind {done : List Phrase} {front : List Mark} {bar : Mark}
      (earlier : Derives front (.alternatives done)) (bars : bar.kind = .bar) :
      Opened done (front ++ [bar])

theorem Opened.derives {done parts : List Phrase} {before back : List Mark}
    (opened : Opened done before) (last : Derives back (.parts parts)) :
    Derives (before ++ back) (.alternatives (done ++ [ofParts parts])) := by
  cases opened with
  | start => exact .oneAlternative last
  | behind earlier bars =>
      rw [List.append_assoc]
      exact .nextAlternative earlier bars last

theorem Derives.repeat_last {marks : List Mark} {parts : List Phrase} {mark : Mark}
    {bounds : Bounds} (derives : Derives marks (.parts parts)) (repeats : mark.Repeats bounds) :
    ∃ earlier part, parts = earlier ++ [part] ∧ part.IsPart ∧
      Derives (marks ++ [mark]) (.parts (earlier ++ [.repeated bounds part])) := by
  cases derives with
  | onePart only => exact ⟨[], _, rfl, only.proper, .onePart (.repeated only repeats)⟩
  | nextPart earlier last =>
      refine ⟨_, _, rfl, last.proper, ?_⟩
      rw [List.append_assoc]
      exact .nextPart earlier (.repeated last repeats)

/-- Whether a level shows the marks that it has taken. -/
inductive Level.Shows : Level → List Mark → Prop where
  | fresh {done : List Phrase} {before : List Mark} (bar : Nat) (opened : Opened done before) :
      Shows (.fresh bar done) before
  | filled {done parts : List Phrase} {before back : List Mark} (opened : Opened done before)
      (last : Derives back (.parts parts)) : Shows (.filled done parts) (before ++ back)

namespace Level.Shows

variable {level next : Level} {marks back : List Mark} {mark : Mark}

theorem push {part : Phrase} (shown : level.Shows marks) (more : Derives back (.part part)) :
    (level.push part).Shows (marks ++ back) := by
  cases shown with
  | fresh bar opened =>
      rw [push_fresh]
      exact .filled opened (.onePart more)
  | filled opened last =>
      rw [push_filled last.proper.1 last.proper.2, List.append_assoc]
      exact .filled opened (.nextPart last more)

theorem quantify {bounds : Bounds} (shown : level.Shows marks) (repeats : mark.Repeats bounds)
    (quantified : level.quantify bounds = some next) : next.Shows (marks ++ [mark]) := by
  cases shown with
  | fresh bar opened =>
      rw [quantify_fresh] at quantified
      cases quantified
  | filled opened last =>
      obtain ⟨earlier, part, rfl, isPart, again⟩ := last.repeat_last repeats
      rw [quantify_filled isPart] at quantified
      cases quantified
      rw [List.append_assoc]
      exact .filled opened again

theorem alternate (shown : level.Shows marks) (bars : mark.kind = .bar)
    (alternated : level.alternate mark.start = some next) : next.Shows (marks ++ [mark]) := by
  cases shown with
  | fresh bar opened =>
      rw [alternate_fresh] at alternated
      cases alternated
  | filled opened last =>
      have whole := opened.derives last
      rw [Level.filled, alternate_closed whole.proper.1 whole.proper.2] at alternated
      cases alternated
      exact .fresh _ (.behind whole bars)

theorem finish {phrase : Phrase} (shown : level.Shows marks)
    (finished : level.finish = .ok (some phrase)) :
    ∃ alternatives, Derives marks (.alternatives alternatives) ∧
      phrase = ofAlternatives alternatives := by
  cases shown with
  | @fresh done _ bar opened => cases done <;> cases finished
  | filled opened last =>
      cases finished
      exact ⟨_, opened.derives last, rfl⟩

end Level.Shows

inductive Nested : List Interrupted → Level → List Mark → Prop where
  | outermost {level : Level} {marks : List Mark} (inner : level.Shows marks) :
      Nested [] level marks
  | inside {outer : Interrupted} {around : List Interrupted} {level : Level} {opening : Mark}
      {before marks : List Mark} (outside : Nested around outer.level before)
      (opens : opening.kind = .opening) (inner : level.Shows marks) :
      Nested (outer :: around) level (before ++ opening :: marks)

theorem Nested.grow {around : List Interrupted} {level next : Level} {marks back : List Mark}
    (nested : Nested around level marks)
    (grows : ∀ shown, level.Shows shown → next.Shows (shown ++ back)) :
    Nested around next (marks ++ back) := by
  cases nested with
  | outermost inner => exact .outermost (grows _ inner)
  | inside outside opens inner =>
      rw [List.append_assoc, List.cons_append]
      exact .inside outside opens (grows _ inner)

theorem Level.take_eq_ok {level next : Level} {mark : Mark} (taken : level.take mark = .ok next) :
    ∃ bounds, mark.bounds? = some bounds ∧ level.quantify bounds = some next := by
  unfold take at taken
  split at taken
  · cases taken
  · next bounds read =>
      split at taken
      · next after quantified =>
          cases taken
          exact ⟨bounds, read, quantified⟩
      · cases taken

theorem Level.closeGroup_eq_ok {level next : Level} {outer : Interrupted}
    (closed : level.closeGroup outer = .ok next) :
    ∃ inner, level.finish = .ok (some inner) ∧ next = outer.level.push (.group inner) := by
  unfold closeGroup at closed
  split at closed
  · cases closed
  · cases closed
  · next inner finished =>
      cases closed
      exact ⟨inner, finished, rfl⟩

theorem readMarks_nil_eq_ok {around : List Interrupted} {level : Level} {phrase : Phrase}
    (read : readMarks around level [] = .ok phrase) :
    around = [] ∧ level.finish = .ok (some phrase) := by
  simp only [readMarks] at read
  split at read <;> cases read
  next finished => exact ⟨rfl, finished⟩

/-- What is read behind marks that the open levels show is what all the marks say. -/
theorem readMarks_derives {around : List Interrupted} {level : Level} {before : List Mark}
    (nested : Nested around level before) {marks : List Mark} {phrase : Phrase}
    (written : ∀ mark ∈ marks, mark.kind = .bounds → ∃ least most, Written mark.chars least most)
    (read : readMarks around level marks = .ok phrase) :
    ∃ alternatives, Derives (before ++ marks) (.alternatives alternatives) ∧
      phrase = ofAlternatives alternatives := by
  induction marks generalizing around level before with
  | nil =>
      obtain ⟨rfl, finished⟩ := readMarks_nil_eq_ok read
      rw [List.append_nil]
      cases nested with
      | outermost inner => exact inner.finish finished
  | cons mark rest ih =>
      have later := fun mark member => written mark (List.mem_cons_of_mem _ member)
      -- whatever becomes of the mark, the levels show it too before the rest is read
      have onward : ∀ {around next}, Nested around next (before ++ [mark]) →
          readMarks around next rest = .ok phrase →
          ∃ alternatives, Derives (before ++ mark :: rest) (.alternatives alternatives) ∧
            phrase = ofAlternatives alternatives := by
        intro around next grown read
        have whole := ih grown later read
        rwa [List.append_assoc, List.singleton_append] at whole
      cases kind : mark.kind with
      | name =>
          simp only [readMarks, kind] at read
          exact onward (nested.grow fun _ shown => shown.push (.name kind)) read
      | opening =>
          simp only [readMarks, kind] at read
          exact onward (.inside nested kind (.fresh 0 .start)) read
      | closing =>
          simp only [readMarks, kind] at read
          cases nested with
          | outermost inner =>
              -- nothing is open that the mark could close
              simp only at read
              split at read <;> cases read
          | inside outside opens inner =>
              simp only at read
              split at read
              · cases read
              · next closed =>
                obtain ⟨group, finished, rfl⟩ := Level.closeGroup_eq_ok closed
                obtain ⟨alternatives, derives, rfl⟩ := inner.finish finished
                have grown := outside.grow fun _ shown => shown.push (.group opens derives kind)
                refine onward ?_ read
                rwa [List.append_assoc, List.cons_append]
      | bar =>
          simp only [readMarks, kind] at read
          split at read
          · next next alternated =>
            exact onward (nested.grow fun _ shown => shown.alternate kind alternated) read
          · cases read
      | optional | star | plus | bounds =>
          have quantifier : mark.IsQuantifier := by
            have braces := written mark List.mem_cons_self
            simp_all [Mark.IsQuantifier]
          simp only [readMarks, kind] at read
          split at read
          · cases read
          · next next taken =>
            obtain ⟨bounds, meant, quantified⟩ := Level.take_eq_ok taken
            have repeats := (Mark.bounds?_eq_some_iff quantifier).mp meant
            exact onward (nested.grow fun _ shown => shown.quantify repeats quantified) read

end Sound

/-- A rule body is read if it can be cut into marks that are a body, and what is read is what
they say. -/
theorem Phrase.ofBody_eq_ok_iff (body : String) (phrase : Phrase) :
    Phrase.ofBody body = .ok phrase ↔
      ∃ read, marks body.toList = .ok read ∧
        ∃ alternatives, Derives read (.alternatives alternatives) ∧
          phrase = ofAlternatives alternatives := by
  unfold Phrase.ofBody
  constructor
  · intro result
    split at result
    · cases result
    · cases result
    · next read _ cut =>
      have start : Nested [] .empty [] := .outermost (.fresh 0 .start)
      have written : ∀ mark ∈ read, mark.kind = .bounds →
          ∃ least most, Written mark.chars least most :=
        fun mark member => written_of_mem_marks cut member
      obtain ⟨alternatives, derives, said⟩ := readMarks_derives start written result
      exact ⟨read, cut, alternatives, derives, said⟩
  · rintro ⟨read, cut, alternatives, derives, rfl⟩
    have result := derives.grows [] []
    rw [List.append_nil] at result
    rw [cut]
    cases read <;> exact result

example : readMarks [] .empty [⟨.name, 0, ['A']⟩, ⟨.bar, 1, ['|']⟩, ⟨.name, 2, ['B']⟩,
      ⟨.name, 4, ['C']⟩, ⟨.plus, 5, ['+']⟩] =
    .ok (.choice [.reference "A",
      .sequence [.reference "B", .repeated ⟨1, none⟩ (.reference "C")]]) := rfl

end TextGrammar.Notation
