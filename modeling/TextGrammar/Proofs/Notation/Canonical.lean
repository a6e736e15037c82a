import TextGrammar.Proofs.Notation.Violations

/-!
The shape of what has been read of a body. A phrase grows at its right end by rules that take
something for granted: what binds looser than a repetition is a sequence or a choice, and neither
is without a last part to take hold of. Behind each mark every level of parentheses holds a phrase
of canonical shape, save that a choice which a bar has just opened may have one alternative only.
So reading that stops where a rule meets something else reads all the same.
-/

namespace TextGrammar.Notation

/-- Whether the parts of a phrase nest as quantifiers, sequences and choices bind. -/
inductive Phrase.Canonical : Phrase → Prop where
  | reference (name : String) : Canonical (.reference name)
  | group {inner : Phrase} (inside : Canonical inner) : Canonical (.group inner)
  | repeated {bounds : Bounds} {body : Phrase} (proper : bounds.isProper = true)
      (isPart : body.IsPart) (inside : Canonical body) : Canonical (.repeated bounds body)
  | sequence {parts : List Phrase} (several : 2 ≤ parts.length)
      (isPart : ∀ part ∈ parts, part.IsPart) (inside : ∀ part ∈ parts, Canonical part) :
      Canonical (.sequence parts)
  | choice {alternatives : List Phrase} (several : 2 ≤ alternatives.length)
      (single : ∀ alternative ∈ alternatives, ¬alternative.IsChoice)
      (inside : ∀ alternative ∈ alternatives, Canonical alternative) :
      Canonical (.choice alternatives)

inductive Level.Canonical : Level → Prop where
  | blank : Canonical .empty
  | closed {phrase : Phrase} (whole : phrase.Canonical) : Canonical ⟨some phrase, none⟩
  /-- A bar waits for one more alternative. -/
  | opened {alternatives : List Phrase} (bar : Nat) (filled : alternatives ≠ [])
      (single : ∀ alternative ∈ alternatives, ¬alternative.IsChoice)
      (whole : ∀ alternative ∈ alternatives, alternative.Canonical) :
      Canonical ⟨some (.choice alternatives), some bar⟩

/-! Growth that stops where it meets a phrase of another shape than it takes for granted. -/

inductive Halt where
  | refused (error : BodyError)
  /-- What binds looser than a repetition is neither a sequence nor a choice. -/
  | shapeless
  /-- A sequence or a choice has no last part. -/
  | hollow

def Phrase.looseness : Phrase → Nat
  | .reference _ | .group _ => 0
  | .repeated _ _ => 1
  | .sequence _ => 2
  | .choice _ => 3

mutual

/-- A phrase with a further part behind it, unless growth stops there. -/
def Phrase.checkedFollow (phrase part : Phrase) : Except Halt Phrase :=
  if phrase.looseness < 2 then .ok (.sequence [phrase, part])
  else match phrase with
    | .sequence parts => .ok (.sequence (parts ++ [part]))
    | .choice alternatives => (Phrase.checkedFollowLast alternatives part).map .choice
    | _ => .error .shapeless

def Phrase.checkedFollowLast : List Phrase → Phrase → Except Halt (List Phrase)
  | [], _ => .error .hollow
  | [last], part => (last.checkedFollow part).map ([·])
  | first :: second :: rest, part =>
      (Phrase.checkedFollowLast (second :: rest) part).map (first :: ·)

end

mutual

def Phrase.checkedQuantify (bounds : Bounds) (phrase : Phrase) : Except Halt Phrase :=
  if phrase.looseness ≤ 1 then .ok (.repeated bounds phrase)
  else match phrase with
    | .sequence parts => (Phrase.checkedQuantifyLast bounds parts).map .sequence
    | .choice alternatives => (Phrase.checkedQuantifyLast bounds alternatives).map .choice
    | _ => .error .shapeless

def Phrase.checkedQuantifyLast (bounds : Bounds) : List Phrase → Except Halt (List Phrase)
  | [] => .error .hollow
  | [last] => (last.checkedQuantify bounds).map ([·])
  | first :: second :: rest =>
      (Phrase.checkedQuantifyLast bounds (second :: rest)).map (first :: ·)

end

namespace Level

def checkedPush (level : Level) (part : Phrase) : Except Halt Level :=
  match level.phrase, level.openBar with
  | none, _ => .ok ⟨some part, none⟩
  | some (.choice alternatives), some _ => .ok ⟨some (.choice (alternatives ++ [part])), none⟩
  | some phrase, _ => (phrase.checkedFollow part).map (⟨some ·, none⟩)

def checkedTake (level : Level) (mark : Mark) : Except Halt Level :=
  match mark.bounds? with
  | none => .error (.refused (.invalidBounds (String.ofList mark.chars) mark.start))
  | some bounds =>
      match level.phrase, level.openBar with
      | some phrase, none => (phrase.checkedQuantify bounds).map (⟨some ·, none⟩)
      | _, _ => .error (.refused (.danglingQuantifier mark.start))

def checkedCloseGroup (level : Level) (around : Interrupted) : Except Halt Level :=
  match level.finish with
  | .error error => .error (.refused error)
  | .ok none => .error (.refused (.emptyGroup around.opening))
  | .ok (some inner) => around.level.checkedPush (.group inner)

end Level

/-- The levels of parentheses between two marks: the one that grows, and those that it has
interrupted, the nearest first. -/
structure Levels where
  around : List Interrupted
  level : Level

namespace Levels

def start : Levels := ⟨[], .empty⟩

def all (levels : Levels) : List Level := levels.level :: levels.around.map (·.level)

def take (levels : Levels) (mark : Mark) : Except Halt Levels :=
  match mark.kind with
  | .name =>
      (levels.level.checkedPush (.reference (String.ofList mark.chars))).map (⟨levels.around, ·⟩)
  | .opening => .ok ⟨⟨levels.level, mark.start⟩ :: levels.around, .empty⟩
  | .closing =>
      match levels.around with
      | [] =>
          match levels.level.finish with
          | .error error => .error (.refused error)
          | .ok _ => .error (.refused (.unbalancedGroup mark.start))
      | outer :: around => (levels.level.checkedCloseGroup outer).map (⟨around, ·⟩)
  | .bar =>
      match levels.level.alternate mark.start with
      | some level => .ok ⟨levels.around, level⟩
      | none => .error (.refused (.danglingAlternative mark.start))
  | .optional | .star | .plus | .bounds =>
      (levels.level.checkedTake mark).map (⟨levels.around, ·⟩)

def takeAll (levels : Levels) (marks : List Mark) : Except Halt Levels :=
  marks.foldlM take levels

def Canonical (levels : Levels) : Prop := ∀ level ∈ levels.all, level.Canonical

end Levels

namespace Phrase

variable {phrase part : Phrase} {parts alternatives : List Phrase} {bounds : Bounds}

theorem checkedFollowLast_eq (filled : parts ≠ [])
    (grows : ∀ last ∈ parts, last.checkedFollow part = .ok (last.follow part)) :
    checkedFollowLast parts part = .ok (followLast parts part) := by
  induction parts with
  | nil => exact absurd rfl filled
  | cons first rest ih =>
      cases rest with
      | nil =>
          rw [checkedFollowLast, grows first List.mem_cons_self]
          rfl
      | cons second rest =>
          have later := ih (List.cons_ne_nil second rest) fun last member =>
            grows last (List.mem_cons_of_mem first member)
          rw [checkedFollowLast, later]
          rfl

theorem checkedQuantifyLast_eq (filled : parts ≠ [])
    (grows : ∀ last ∈ parts, last.checkedQuantify bounds = .ok (last.quantify bounds)) :
    checkedQuantifyLast bounds parts = .ok (quantifyLast bounds parts) := by
  induction parts with
  | nil => exact absurd rfl filled
  | cons first rest ih =>
      cases rest with
      | nil =>
          rw [checkedQuantifyLast, grows first List.mem_cons_self]
          rfl
      | cons second rest =>
          have later := ih (List.cons_ne_nil second rest) fun last member =>
            grows last (List.mem_cons_of_mem first member)
          rw [checkedQuantifyLast, later]
          rfl

namespace Canonical

/-- What has canonical shape has all that growing by a further part takes for granted. -/
theorem checkedFollow_eq (whole : phrase.Canonical) (part : Phrase) :
    phrase.checkedFollow part = .ok (phrase.follow part) := by
  induction whole with
  | reference | group | repeated | sequence => rfl
  | @choice alternatives several single inside ih =>
      have grows : (Phrase.choice alternatives).checkedFollow part =
          (checkedFollowLast alternatives part).map Phrase.choice := rfl
      rw [grows, checkedFollowLast_eq (List.ne_nil_of_length_pos (Nat.zero_lt_of_lt several)) ih]
      rfl

theorem checkedQuantify_eq (whole : phrase.Canonical) (bounds : Bounds) :
    phrase.checkedQuantify bounds = .ok (phrase.quantify bounds) := by
  induction whole with
  | reference | group | repeated => rfl
  | @sequence parts several isPart inside ih =>
      have grows : (Phrase.sequence parts).checkedQuantify bounds =
          (checkedQuantifyLast bounds parts).map Phrase.sequence := rfl
      rw [grows, checkedQuantifyLast_eq (List.ne_nil_of_length_pos (Nat.zero_lt_of_lt several)) ih]
      rfl
  | @choice alternatives several single inside ih =>
      have grows : (Phrase.choice alternatives).checkedQuantify bounds =
          (checkedQuantifyLast bounds alternatives).map Phrase.choice := rfl
      rw [grows, checkedQuantifyLast_eq (List.ne_nil_of_length_pos (Nat.zero_lt_of_lt several)) ih]
      rfl

theorem follow_single (whole : phrase.Canonical) (single : ¬phrase.IsChoice)
    (isPart : part.IsPart) (inside : part.Canonical) :
    (phrase.follow part).Canonical ∧ ¬(phrase.follow part).IsChoice := by
  by_cases alone : phrase.IsPart
  · rw [alone.follow]
    refine ⟨.sequence (Nat.le_refl 2) ?_ ?_, id⟩
    · simp [alone, isPart]
    · simp [whole, inside]
  · cases whole with
    | reference | group | repeated => exact absurd trivial alone
    | choice => exact absurd trivial single
    | sequence several areParts insides =>
        refine ⟨.sequence ?_ ?_ ?_, id⟩
        · rw [List.length_append]
          omega
        · exact List.forall_mem_append.mpr ⟨areParts, List.forall_mem_singleton.mpr isPart⟩
        · exact List.forall_mem_append.mpr ⟨insides, List.forall_mem_singleton.mpr inside⟩

theorem quantify_part (whole : phrase.Canonical) (isPart : phrase.IsPart)
    (proper : bounds.isProper = true) :
    (phrase.quantify bounds).Canonical ∧ (phrase.quantify bounds).IsPart := by
  rw [isPart.quantify]
  exact ⟨.repeated proper isPart whole, trivial⟩

theorem quantify_single (whole : phrase.Canonical) (single : ¬phrase.IsChoice)
    (proper : bounds.isProper = true) :
    (phrase.quantify bounds).Canonical ∧ ¬(phrase.quantify bounds).IsChoice := by
  by_cases alone : phrase.IsPart
  · obtain ⟨grown, isPart⟩ := whole.quantify_part alone proper
    exact ⟨grown, isPart.not_isChoice⟩
  · cases whole with
    | reference | group | repeated => exact absurd trivial alone
    | choice => exact absurd trivial single
    | @sequence parts several areParts insides =>
        obtain rfl | ⟨earlier, last, rfl⟩ := parts.eq_nil_or_concat'
        · exact absurd several (by decide)
        · obtain ⟨areParts, lastPart⟩ := List.forall_mem_append.mp areParts
          obtain ⟨insides, lastInside⟩ := List.forall_mem_append.mp insides
          rw [List.forall_mem_singleton] at lastPart lastInside
          obtain ⟨grown, isPart⟩ := lastInside.quantify_part lastPart proper
          rw [Phrase.quantify, quantifyLast_append]
          refine ⟨.sequence ?_ ?_ ?_, id⟩
          · simpa using several
          · exact List.forall_mem_append.mpr ⟨areParts, List.forall_mem_singleton.mpr isPart⟩
          · exact List.forall_mem_append.mpr ⟨insides, List.forall_mem_singleton.mpr grown⟩

theorem exists_last_alternative (whole : (Phrase.choice alternatives).Canonical) :
    ∃ earlier last, alternatives = earlier ++ [last] ∧ last.Canonical ∧ ¬last.IsChoice ∧
      ∀ grown : Phrase, grown.Canonical ∧ ¬grown.IsChoice →
        (Phrase.choice (earlier ++ [grown])).Canonical := by
  cases whole with
  | choice several single inside =>
      obtain rfl | ⟨earlier, last, rfl⟩ := alternatives.eq_nil_or_concat'
      · exact absurd several (by decide)
      · obtain ⟨singles, lastSingle⟩ := List.forall_mem_append.mp single
        obtain ⟨insides, lastInside⟩ := List.forall_mem_append.mp inside
        rw [List.forall_mem_singleton] at lastSingle lastInside
        refine ⟨earlier, last, rfl, lastInside, lastSingle, ?_⟩
        rintro grown ⟨whole, isSingle⟩
        refine .choice ?_ ?_ ?_
        · simpa using several
        · exact List.forall_mem_append.mpr ⟨singles, List.forall_mem_singleton.mpr isSingle⟩
        · exact List.forall_mem_append.mpr ⟨insides, List.forall_mem_singleton.mpr whole⟩

theorem follow (whole : phrase.Canonical) (isPart : part.IsPart) (inside : part.Canonical) :
    (phrase.follow part).Canonical := by
  cases phrase with
  | reference | group | repeated | sequence => exact (whole.follow_single id isPart inside).1
  | choice alternatives =>
      obtain ⟨earlier, last, rfl, lastWhole, single, replaced⟩ := whole.exists_last_alternative
      rw [Phrase.follow, followLast_append]
      exact replaced _ (lastWhole.follow_single single isPart inside)

theorem quantify (whole : phrase.Canonical) (proper : bounds.isProper = true) :
    (phrase.quantify bounds).Canonical := by
  cases phrase with
  | reference | group | repeated | sequence => exact (whole.quantify_single id proper).1
  | choice alternatives =>
      obtain ⟨earlier, last, rfl, lastWhole, single, replaced⟩ := whole.exists_last_alternative
      rw [Phrase.quantify, quantifyLast_append]
      exact replaced _ (lastWhole.quantify_single single proper)

end Canonical

end Phrase

theorem Mark.isProper_of_bounds? {mark : Mark} {bounds : Bounds}
    (read : mark.bounds? = some bounds) : bounds.isProper = true := by
  unfold bounds? at read
  split at read
  · cases read
    rfl
  · cases read
    rfl
  · cases read
    rfl
  · exact (Option.filter_eq_some_iff.mp read).2

namespace Level

variable {level next : Level} {phrase part : Phrase} {bounds : Bounds}

theorem checkedPush_closed (phrase part : Phrase) :
    (⟨some phrase, none⟩ : Level).checkedPush part =
      (phrase.checkedFollow part).map (⟨some ·, none⟩) := by
  cases phrase <;> rfl

namespace Canonical

theorem push (canonical : level.Canonical) (isPart : part.IsPart) (inside : part.Canonical) :
    (level.push part).Canonical := by
  cases canonical with
  | blank => exact .closed inside
  | closed whole =>
      rw [push_closed]
      exact .closed (whole.follow isPart inside)
  | opened bar filled single whole =>
      refine .closed (.choice ?_ ?_ ?_)
      · have positive := List.length_pos_iff.mpr filled
        rw [List.length_append]
        exact Nat.succ_le_succ positive
      · refine List.forall_mem_append.mpr ⟨single, ?_⟩
        exact List.forall_mem_singleton.mpr isPart.not_isChoice
      · exact List.forall_mem_append.mpr ⟨whole, List.forall_mem_singleton.mpr inside⟩

theorem checkedPush_eq (canonical : level.Canonical) (part : Phrase) :
    level.checkedPush part = .ok (level.push part) := by
  cases canonical with
  | blank | opened => rfl
  | closed whole =>
      rw [checkedPush_closed, push_closed, whole.checkedFollow_eq]
      rfl

theorem alternate (canonical : level.Canonical) {offset : Nat}
    (alternated : level.alternate offset = some next) : next.Canonical := by
  cases canonical with
  | blank | opened => cases alternated
  | @closed phrase whole =>
      cases alternated
      cases phrase with
      | choice alternatives =>
          cases whole with
          | choice several single inside =>
              have filled := List.ne_nil_of_length_pos (Nat.zero_lt_of_lt several)
              exact .opened offset filled single inside
      | reference | group | repeated | sequence =>
          refine .opened offset (List.cons_ne_nil _ []) ?_ ?_
          · exact List.forall_mem_singleton.mpr id
          · exact List.forall_mem_singleton.mpr whole

theorem take (canonical : level.Canonical) {mark : Mark} (taken : level.take mark = .ok next) :
    next.Canonical := by
  obtain ⟨bounds, read, quantified⟩ := take_eq_ok taken
  cases canonical with
  | blank | opened => cases quantified
  | closed whole =>
      cases quantified
      exact .closed (whole.quantify (Mark.isProper_of_bounds? read))

theorem checkedTake_eq (canonical : level.Canonical) (mark : Mark) :
    level.checkedTake mark = (level.take mark).mapError .refused := by
  unfold checkedTake Level.take
  cases mark.bounds? with
  | none => rfl
  | some bounds =>
      cases canonical with
      | blank | opened => rfl
      | closed whole =>
          simp only [whole.checkedQuantify_eq]
          rfl

theorem finish (canonical : level.Canonical) (finished : level.finish = .ok (some phrase)) :
    phrase.Canonical := by
  cases canonical with
  | blank | opened => cases finished
  | closed whole =>
      cases finished
      exact whole

variable {outer : Interrupted}

theorem closeGroup (canonical : level.Canonical) (outside : outer.level.Canonical)
    (closed : level.closeGroup outer = .ok next) : next.Canonical := by
  obtain ⟨inner, finished, rfl⟩ := closeGroup_eq_ok closed
  exact outside.push trivial (.group (canonical.finish finished))

theorem checkedCloseGroup_eq (level : Level) (outside : outer.level.Canonical) :
    level.checkedCloseGroup outer = (level.closeGroup outer).mapError .refused := by
  unfold checkedCloseGroup Level.closeGroup
  cases level.finish with
  | error error => rfl
  | ok phrase? =>
      cases phrase? with
      | none => rfl
      | some inner => exact outside.checkedPush_eq (.group inner)

end Canonical

end Level

namespace Levels

variable {levels : Levels}

theorem takeAll_singleton (levels : Levels) (mark : Mark) :
    levels.takeAll [mark] = levels.take mark := by
  rw [takeAll, List.foldlM_cons]
  cases levels.take mark <;> rfl

theorem takeAll_cons (levels : Levels) (mark : Mark) (rest : List Mark) :
    levels.takeAll (mark :: rest) = (levels.takeAll [mark]).bind (·.takeAll rest) := by
  rw [takeAll_singleton, takeAll, List.foldlM_cons]
  rfl

theorem canonical_iff :
    levels.Canonical ↔
      levels.level.Canonical ∧ ∀ outer ∈ levels.around, outer.level.Canonical := by
  simp [Canonical, all]

theorem canonical_start : start.Canonical := canonical_iff.mpr ⟨.blank, by simp [start]⟩

/-- Whether marks are taken, to levels of canonical shape on which reading goes on, or refused as
reading refuses them. -/
inductive Passes (levels : Levels) (marks : List Mark) : Prop where
  | on (next : Levels) (taken : levels.takeAll marks = .ok next) (canonical : next.Canonical)
      (same : ∀ rest, readMarks levels.around levels.level (marks ++ rest) =
        readMarks next.around next.level rest)
  | stops (error : BodyError) (refused : levels.takeAll marks = .error (.refused error))
      (same : ∀ rest, readMarks levels.around levels.level (marks ++ rest) = .error error)

section Mark

variable {around : List Interrupted} {level : Level} {mark : Mark}
variable (inside : level.Canonical) (outside : ∀ outer ∈ around, outer.level.Canonical)

include inside outside

theorem passes_name (named : mark.kind = .name) : Passes ⟨around, level⟩ [mark] := by
  refine .on ⟨around, level.push (.reference (String.ofList mark.chars))⟩ ?_ ?_ ?_
  · simp only [takeAll_singleton, take, named, inside.checkedPush_eq]
    rfl
  · exact canonical_iff.mpr ⟨inside.push trivial (.reference _), outside⟩
  · intro rest
    simp only [List.singleton_append, readMarks, named]

theorem passes_opening (opens : mark.kind = .opening) : Passes ⟨around, level⟩ [mark] := by
  refine .on ⟨⟨level, mark.start⟩ :: around, .empty⟩ ?_ ?_ ?_
  · simp only [takeAll_singleton, take, opens]
  · exact canonical_iff.mpr ⟨.blank, List.forall_mem_cons.mpr ⟨inside, outside⟩⟩
  · intro rest
    simp only [List.singleton_append, readMarks, opens]

theorem passes_closing (closes : mark.kind = .closing) : Passes ⟨around, level⟩ [mark] := by
  cases around with
  | nil =>
      -- nothing is open that the mark could close
      cases finished : level.finish with
      | error error =>
          refine .stops error ?_ fun rest => ?_
          · simp only [takeAll_singleton, take, closes, finished]
          · simp only [List.singleton_append, readMarks, closes, finished]
      | ok phrase? =>
          refine .stops (.unbalancedGroup mark.start) ?_ fun rest => ?_
          · simp only [takeAll_singleton, take, closes, finished]
          · simp only [List.singleton_append, readMarks, closes, finished]
  | cons outer around =>
      obtain ⟨nearest, others⟩ := List.forall_mem_cons.mp outside
      have checked := Level.Canonical.checkedCloseGroup_eq level nearest
      cases closed : level.closeGroup outer with
      | error error =>
          refine .stops error ?_ fun rest => ?_
          · simp only [takeAll_singleton, take, closes, checked, closed]
            rfl
          · simp only [List.singleton_append, readMarks, closes, closed]
      | ok next =>
          refine .on ⟨around, next⟩ ?_ ?_ fun rest => ?_
          · simp only [takeAll_singleton, take, closes, checked, closed]
            rfl
          · exact canonical_iff.mpr ⟨inside.closeGroup nearest closed, others⟩
          · simp only [List.singleton_append, readMarks, closes, closed]

theorem passes_bar (bars : mark.kind = .bar) : Passes ⟨around, level⟩ [mark] := by
  cases alternated : level.alternate mark.start with
  | none =>
      refine .stops (.danglingAlternative mark.start) ?_ fun rest => ?_
      · simp only [takeAll_singleton, take, bars, alternated]
      · simp only [List.singleton_append, readMarks, bars, alternated]
  | some next =>
      refine .on ⟨around, next⟩ ?_ ?_ fun rest => ?_
      · simp only [takeAll_singleton, take, bars, alternated]
      · exact canonical_iff.mpr ⟨inside.alternate alternated, outside⟩
      · simp only [List.singleton_append, readMarks, bars, alternated]

theorem passes_quantifier (quantifies : mark.kind.isQuantifier = true) :
    Passes ⟨around, level⟩ [mark] := by
  have checked : take ⟨around, level⟩ mark =
      ((level.take mark).mapError .refused).map (⟨around, ·⟩) := by
    rw [← inside.checkedTake_eq]
    cases kind : mark.kind with
    | optional | star | plus | bounds => simp only [take, kind]
    | name | opening | closing | bar => rw [kind] at quantifies; cases quantifies
  cases taken : level.take mark with
  | error error =>
      refine .stops error ?_ fun rest => ?_
      · rw [takeAll_singleton, checked, taken]
        rfl
      · rw [List.singleton_append, readMarks_of_quantifies quantifies, taken]
  | ok next =>
      refine .on ⟨around, next⟩ ?_ ?_ fun rest => ?_
      · rw [takeAll_singleton, checked, taken]
        rfl
      · exact canonical_iff.mpr ⟨inside.take taken, outside⟩
      · rw [List.singleton_append, readMarks_of_quantifies quantifies, taken]

end Mark

theorem Canonical.passes_mark (canonical : levels.Canonical) (mark : Mark) :
    levels.Passes [mark] := by
  obtain ⟨inside, outside⟩ := canonical_iff.mp canonical
  cases kind : mark.kind with
  | name => exact passes_name inside outside kind
  | opening => exact passes_opening inside outside kind
  | closing => exact passes_closing inside outside kind
  | bar => exact passes_bar inside outside kind
  | optional | star | plus | bounds => exact passes_quantifier inside outside (by rw [kind]; rfl)

theorem Canonical.passes (canonical : levels.Canonical) (marks : List Mark) :
    levels.Passes marks := by
  induction marks generalizing levels with
  | nil => exact .on levels rfl canonical fun rest => rfl
  | cons mark later ih =>
      cases canonical.passes_mark mark with
      | stops error refused same =>
          refine .stops error ?_ fun rest => same (later ++ rest)
          rw [takeAll_cons, refused]
          rfl
      | on next taken canonical here =>
          -- the levels behind the first mark are canonical again, and the others pass from there
          have behind : ∀ rest, readMarks levels.around levels.level (mark :: later ++ rest) =
              readMarks next.around next.level (later ++ rest) := fun rest => here (later ++ rest)
          cases ih canonical with
          | stops error refused same =>
              refine .stops error ?_ fun rest => (behind rest).trans (same rest)
              rw [takeAll_cons, taken]
              exact refused
          | on last all canonical same =>
              refine .on last ?_ canonical fun rest => (behind rest).trans (same rest)
              rw [takeAll_cons, taken]
              exact all

end Levels

/-- Whatever marks come, either all of them are taken, each level of parentheses is of canonical
shape behind them and it is with these levels that reading goes on, or one of them is refused, and
reading refuses it for the same reason. Growth itself never stops. -/
theorem readMarks_canonical (marks : List Mark) :
    (∃ levels, Levels.start.takeAll marks = .ok levels ∧
      (∀ level ∈ levels.all, level.Canonical) ∧
      ∀ rest, readMarks [] .empty (marks ++ rest) =
        readMarks levels.around levels.level rest) ∨
    ∃ error, Levels.start.takeAll marks = .error (.refused error) ∧
      ∀ rest, readMarks [] .empty (marks ++ rest) = .error error := by
  cases Levels.canonical_start.passes marks with
  | on levels taken canonical same => exact .inl ⟨levels, taken, canonical, same⟩
  | stops error refused same => exact .inr ⟨error, refused, same⟩

example : Levels.start.takeAll [⟨.name, 0, ['A']⟩, ⟨.bar, 1, ['|']⟩] =
    .ok ⟨[], ⟨some (.choice [.reference "A"]), some 1⟩⟩ := rfl

theorem Phrase.canonical_of_ofBody {body : String} {phrase : Phrase}
    (read : Phrase.ofBody body = .ok phrase) : phrase.Canonical := by
  unfold Phrase.ofBody at read
  split at read
  · cases read
  · cases read
  · next marks _ cut =>
      cases Levels.canonical_start.passes marks with
      | on next taken canonical same =>
          have ends := same []
          rw [List.append_nil] at ends
          obtain ⟨-, finished⟩ := readMarks_nil_eq_ok (ends.symm.trans read)
          exact (Levels.canonical_iff.mp canonical).1.finish finished
      | stops error refused same =>
          have ends := same []
          rw [List.append_nil] at ends
          cases ends.symm.trans read

end TextGrammar.Notation
