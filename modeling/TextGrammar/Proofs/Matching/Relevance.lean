import TextGrammar.Proofs.Matching.Observation

/-!
What a match hangs on. A lexeme is asked for by number and at one position at a time, and where
the same numbers are found at the positions that are asked for, a match goes the same way. For
this it must be known that the positions noted in a state are still noted when the match is over,
which holds since what is noted of a match is added to what was noted before it.
-/

namespace TextGrammar

open Notation (Bounds)

def Progress.behind (front : Array Step) (state : Progress) : Progress :=
  { state with journal := state.journal.map (front ++ ·) }

theorem Progress.behind_note (front : Array Step) (state : Progress) (step : Step) :
    (state.note step).behind front = (state.behind front).note step := by
  simp only [behind, note, Option.map_map]
  congr 2
  funext steps
  exact Array.append_push

theorem Progress.behind_backtrack (front : Array Step) (state : Progress) (place : Bookmark) :
    (state.backtrack place).behind front = (state.behind front).backtrack place :=
  change_backtrack (behind front) (fun _ => rfl) (fun state _ _ => state.behind_note front _)
    (fun _ _ => rfl) state place

def Step.asked? : Step → Option Nat
  | .test _ cursor _ _ => some cursor
  | .enter .. | .leave .. | .backtrack .. => none

def Lexeme.bare (lexeme : Lexeme) : Lexeme := ⟨lexeme.id, ⟨0, "", []⟩, 0, 0⟩

def Step.bare : Step → Step
  | .test expected cursor found matched => .test expected cursor (found.map Lexeme.bare) matched
  | step => step

@[simp] theorem Step.asked?_bare (step : Step) : step.bare.asked? = step.asked? := by
  cases step <;> rfl

namespace Progress

theorem bookmark_congr {left right : Progress} (cursor : left.cursor = right.cursor)
    (trail : left.trail = right.trail) : left.bookmark = right.bookmark := by
  rw [bookmark, bookmark, cursor, trail]

def asked (state : Progress) : List Nat :=
  (state.journal.getD #[]).toList.filterMap Step.asked?

def bare (state : Progress) : Progress :=
  { state with journal := state.journal.map (·.map Step.bare) }

variable {state : Progress} {step : Step}

theorem asked_note_of_none (silent : step.asked? = none) :
    (state.note step).asked = state.asked := by
  cases noted : state.journal with
  | none => simp [asked, note, noted]
  | some steps => simp [asked, note, noted, silent]

theorem mem_asked_note {position : Nat} (observed : state.journal.isSome = true)
    (asks : step.asked? = some position) : position ∈ (state.note step).asked := by
  obtain ⟨steps, noted⟩ := Option.isSome_iff_exists.mp observed
  simp [asked, note, noted, asks]

@[simp] theorem asked_backtrack (place : Bookmark) :
    (state.backtrack place).asked = state.asked := by
  unfold backtrack
  split
  · rfl
  · exact asked_note_of_none rfl

theorem asked_behind (front : Array Step) (observed : state.journal.isSome = true) :
    (state.behind front).asked = front.toList.filterMap Step.asked? ++ state.asked := by
  obtain ⟨steps, noted⟩ := Option.isSome_iff_exists.mp observed
  simp [asked, behind, noted]

theorem asked_bare (state : Progress) : state.bare.asked = state.asked := by
  cases noted : state.journal with
  | none => simp [asked, bare, noted]
  | some steps => simp [asked, bare, noted, List.filterMap_map]

theorem bare_note : (state.note step).bare = state.bare.note step.bare := by
  simp only [bare, note, Option.map_map]
  congr 2
  funext steps
  exact Array.map_push

theorem bare_backtrack (place : Bookmark) :
    (state.backtrack place).bare = state.bare.backtrack place :=
  change_backtrack bare (fun _ => rfl) (fun _ _ _ => bare_note) (fun _ _ => rfl) state place

end Progress

@[simp] theorem Outcome.asked_undone (place : Bookmark) (outcome : Outcome) :
    (outcome.undone place).state.asked = outcome.state.asked := by
  obtain ⟨verdict, after⟩ := outcome
  cases verdict with
  | failed => exact Progress.asked_backtrack place
  | matched | stopped => rfl

namespace Recognizer

variable {r : Recognizer} {front : Array Step}

def Behind (front : Array Step) (one other : Progress) : Prop :=
  other = one.behind front ∧ one.journal.isSome = true

theorem behind_of_noted {state : Progress} (noted : state.journal = some front) :
    Behind front { state with journal := some #[] } state := by
  refine ⟨?_, rfl⟩
  simp [Progress.behind, ← noted]

theorem lockstep_behind : Lockstep (Behind front) where
  fuel := by
    rintro left _ ⟨rfl, -⟩
    rfl
  spend := by
    rintro left _ fuel ⟨rfl, observed⟩
    exact ⟨rfl, observed⟩
  still := by
    rintro left _ further _ ⟨rfl, -⟩ ⟨rfl, -⟩
    exact Iff.rfl
  back := by
    rintro left _ further _ ⟨rfl, -⟩ ⟨rfl, observed⟩ - -
    exact ⟨(further.behind_backtrack front left.bookmark).symm, by simpa using observed⟩

theorem companions_behind : r.Companions r (Behind front) fun _ => False where
  lockstep := lockstep_behind
  table := rfl
  watch := rfl
  room := Nat.le_refl _
  full := .inl rfl
  depth := by
    rintro one _ ⟨rfl, -⟩
    rfl
  opens := by
    rintro id one _ ⟨rfl, observed⟩
    exact ⟨rfl, observed⟩
  closes := by
    rintro id one _ after _ events others ⟨rfl, -⟩ ⟨rfl, observed⟩ recorded recordedToo
    cases Trail.record_inj (recorded.symm.trans recordedToo)
    exact ⟨rfl, observed⟩
  enter := by
    rintro id rule - one _ ⟨rfl, observed⟩
    refine ⟨?_, by simpa using observed⟩
    exact (Progress.behind_note front { one with depth := one.depth + 1 } _).symm
  leave := by
    rintro id rule - one _ depth matched ⟨rfl, observed⟩
    refine ⟨?_, by simpa using observed⟩
    exact (Progress.behind_note front { one with depth := depth } _).symm
  token := by
    rintro id name named one _ ⟨rfl, observed⟩
    rw [testToken_of_named named, testToken_of_named named]
    dsimp only
    have noted : ∀ matched, (one.behind front).note (.test id one.cursor (r.peek? one) matched) =
        (one.note (.test id one.cursor (r.peek? one) matched)).behind front :=
      fun matched => (one.behind_note front _).symm
    change Outcome.Alike _ _ _ (if (r.peek? one).any (·.id = id) then
      ⟨.matched, { (one.behind front).note (.test id one.cursor (r.peek? one) _) with
        cursor := one.cursor + 1
        trail := one.trail.record (r.watch.tokenForest id one.cursor).events }⟩
      else ⟨.failed, (one.behind front).note (.test id one.cursor (r.peek? one) _)⟩)
    rw [noted]
    split
    · exact .inr ⟨rfl, rfl, by simpa using observed⟩
    · exact .inr ⟨rfl, rfl, by simpa using observed⟩

theorem asked_subset (attempt : Progress → Outcome) (state : Progress)
    (adds : ∀ front one other, Behind front one other →
      (attempt one).Alike (Behind front) (fun _ => False) (attempt other)) :
    state.asked ⊆ (attempt state).state.asked := by
  cases noted : state.journal with
  | none => simp [Progress.asked, noted]
  | some steps =>
      rcases adds steps _ _ (behind_of_noted noted) with ⟨_, _, ⟨⟩⟩ | ⟨-, same, observed⟩
      rw [same, Progress.asked_behind steps observed]
      have here : state.asked = steps.toList.filterMap Step.asked? := by
        simp [Progress.asked, noted]
      rw [here]
      exact List.subset_append_left _ _

def Resembling (one other : Progress) : Prop :=
  other.bare = one.bare ∧ one.journal.isSome = true

section Resembling

variable {one other : Progress}

theorem Resembling.eqs (together : Resembling one other) :
    other.cursor = one.cursor ∧ other.trail = one.trail ∧ other.fuel = one.fuel ∧
      other.depth = one.depth ∧
      other.journal.map (·.map Step.bare) = one.journal.map (·.map Step.bare) := by
  have same := together.1
  simpa only [Progress.bare, Progress.mk.injEq] using same

theorem Resembling.of_eqs (cursor : other.cursor = one.cursor)
    (trail : other.trail = one.trail) (fuel : other.fuel = one.fuel)
    (depth : other.depth = one.depth)
    (journal : other.journal.map (·.map Step.bare) = one.journal.map (·.map Step.bare))
    (observed : one.journal.isSome = true) : Resembling one other := by
  refine ⟨?_, observed⟩
  simp only [Progress.bare, Progress.mk.injEq]
  exact ⟨cursor, trail, fuel, depth, journal⟩

theorem Resembling.asked (together : Resembling one other) :
    other.asked = one.asked := by
  rw [← Progress.asked_bare, together.1, Progress.asked_bare]

theorem Resembling.note (together : Resembling one other)
    {step seen : Step} (same : seen.bare = step.bare) :
    Resembling (one.note step) (other.note seen) := by
  refine ⟨?_, by simpa using together.2⟩
  rw [Progress.bare_note, Progress.bare_note, together.1, same]

theorem Resembling.backtrack (together : Resembling one other)
    (place : Bookmark) : Resembling (one.backtrack place) (other.backtrack place) := by
  refine ⟨?_, by simpa using together.2⟩
  rw [Progress.bare_backtrack, Progress.bare_backtrack, together.1]

end Resembling

/-- Whether a way to run matchers comes to what another one comes to, as far as a match can tell,
if something holds of every position that the other one asked for. -/
def Follows (table : RuleTable) (same : Nat → Prop) (left right : Matcher → Progress → Outcome) :
    Prop :=
  ∀ matcher, matcher.Within table → ∀ one other, Resembling one other →
    (∀ position ∈ (left matcher one).state.asked, same position) →
    (left matcher one).Alike Resembling (fun _ => False) (right matcher other)

def Adds (table : RuleTable) (run : Matcher → Progress → Outcome) : Prop :=
  ∀ front, RunsAlike table (Behind front) (fun _ => False) run run

variable {table : RuleTable} {same : Nat → Prop} {left right : Matcher → Progress → Outcome}
  {one other : Progress}

theorem runParts_follows (adds : Adds table left) (follows : Follows table same left right)
    (parts : List Matcher) (within : Matcher.AllWithin table parts)
    (together : Resembling one other)
    (told : ∀ position ∈ (runParts left parts one).state.asked, same position) :
    (runParts left parts one).Alike Resembling (fun _ => False) (runParts right parts other) := by
  induction parts generalizing one other with
  | nil => exact .inr ⟨rfl, together⟩
  | cons part rest ih =>
      have head := follows part within.1 one other together
      rw [runParts] at told ⊢
      rw [runParts]
      rcases ran : left part one with ⟨verdict, after⟩
      rw [ran] at head told
      cases verdict with
      | matched =>
          -- what the first part asked for is still noted when all parts are done
          have grown : after.asked ⊆ (runParts left rest after).state.asked :=
            asked_subset _ after fun front _ _ whole =>
              runParts_alike (adds front) rest within.2 whole
          obtain ⟨behind, went, kept⟩ :=
            Outcome.alike_iff.mp (head fun _ asked => told _ (grown asked))
          rw [went]
          exact ih within.2 kept told
      | failed | stopped =>
          obtain ⟨behind, went, kept⟩ := Outcome.alike_iff.mp (head told)
          rw [went]
          exact .inr ⟨rfl, kept⟩

theorem undone_follows (place : Bookmark) {first second : Outcome}
    (alike : first.Alike Resembling (fun _ => False) second) :
    (first.undone place).Alike Resembling (fun _ => False) (second.undone place) := by
  obtain ⟨verdict, after⟩ := first
  obtain ⟨behind, rfl, kept⟩ := Outcome.alike_iff.mp alike
  cases verdict with
  | failed => exact .inr ⟨rfl, kept.backtrack place⟩
  | matched | stopped => exact .inr ⟨rfl, kept⟩

theorem runChoice_follows (adds : Adds table left) (keeps : Conservative left)
    (follows : Follows table same left right) (alternatives : List Matcher)
    (within : Matcher.AllWithin table alternatives) (together : Resembling one other)
    (told : ∀ position ∈ (runChoice left one.bookmark alternatives one).state.asked,
      same position) :
    (runChoice left one.bookmark alternatives one).Alike Resembling (fun _ => False)
      (runChoice right one.bookmark alternatives other) := by
  induction alternatives generalizing one other with
  | nil => exact .inr ⟨rfl, together⟩
  | cons alternative rest ih =>
      have head := follows alternative within.1 one other together
      have first := keeps alternative one
      rw [runChoice] at told ⊢
      rw [runChoice]
      rcases ran : left alternative one with ⟨verdict, after⟩
      rw [ran] at head first told
      cases verdict with
      | failed =>
          -- the next alternative begins where this one did
          obtain ⟨cursor, trail, -⟩ := first.retry rfl rfl rfl
          have again : one.bookmark = (after.backtrack one.bookmark).bookmark :=
            (Progress.bookmark_congr cursor trail).symm
          have grown : after.asked ⊆ (runChoice left one.bookmark rest
              (after.backtrack one.bookmark)).state.asked := by
            have later := asked_subset (fun state => runChoice left state.bookmark rest state)
              (after.backtrack one.bookmark) fun front _ _ whole =>
                runChoice_alike lockstep_behind keeps keeps (adds front) rest within.2 _ _ whole
                  rfl rfl rfl rfl rfl rfl whole
            rwa [Progress.asked_backtrack, ← again] at later
          obtain ⟨behind, went, kept⟩ :=
            Outcome.alike_iff.mp (head fun _ asked => told _ (grown asked))
          rw [went]
          have following := ih within.2 (kept.backtrack one.bookmark)
          rw [← again] at following
          exact following told
      | matched | stopped =>
          obtain ⟨behind, went, kept⟩ := Outcome.alike_iff.mp (head told)
          rw [went]
          exact .inr ⟨rfl, kept⟩

theorem asked_ended (bounds : Bounds) (count : Nat) (state : Progress) :
    (ended bounds count state).state.asked = state.asked := by
  unfold ended
  split <;> rfl

theorem asked_repeatFrom (adds : Adds table left) {bounds : Bounds} {body : Matcher}
    (within : body.Within table) (rounds : Nat) {count : Nat}
    (more : bounds.allowsMore count = true) :
    (left body one).state.asked ⊆
      (repeatFrom left bounds body (rounds + 1) count one).state.asked := by
  rw [repeatFrom, if_pos more]
  rcases left body one with ⟨verdict, after⟩
  cases verdict with
  | stopped why => exact List.Subset.refl _
  | failed => simp only [asked_ended, List.Subset.refl]
  | matched =>
      dsimp only
      split
      · exact List.Subset.refl _
      · split
        · simp only [asked_ended, List.Subset.refl]
        · exact asked_subset _ after fun front _ _ whole =>
            repeatFrom_alike lockstep_behind (adds front) bounds body within _ _ whole

theorem repeatFrom_follows (adds : Adds table left) (follows : Follows table same left right)
    (bounds : Bounds) (body : Matcher) (within : body.Within table) (rounds count : Nat)
    (together : Resembling one other)
    (told : ∀ position ∈ (repeatFrom left bounds body rounds count one).state.asked,
      same position) :
    (repeatFrom left bounds body rounds count one).Alike Resembling (fun _ => False)
      (repeatFrom right bounds body rounds count other) := by
  induction rounds generalizing count one other with
  | zero => exact .inr ⟨rfl, together⟩
  | succ rounds ih =>
      by_cases more : bounds.allowsMore count = true
      · have head := follows body within one other together fun _ asked =>
          told _ (asked_repeatFrom adds within rounds more asked)
        rw [repeatFrom, if_pos more] at told ⊢
        rw [repeatFrom, if_pos more]
        rcases ran : left body one with ⟨verdict, after⟩
        rw [ran] at head told
        obtain ⟨behind, went, kept⟩ := Outcome.alike_iff.mp head
        rw [went]
        cases verdict with
        | stopped why => exact .inr ⟨rfl, kept⟩
        | failed => exact ended_alike bounds count kept
        | matched =>
            dsimp only at told ⊢
            rw [kept.eqs.1, together.eqs.1]
            split at told
            · next full =>
                rw [if_pos full, if_pos full]
                exact .inr ⟨rfl, kept⟩
            · next room =>
                rw [if_neg room, if_neg room]
                split at told
                · next stays =>
                    rw [if_pos stays, if_pos stays]
                    exact ended_alike bounds _ kept
                · next moved =>
                    rw [if_neg moved, if_neg moved]
                    exact ih (count + 1) kept told
      · rw [repeatFrom, repeatFrom, if_neg more, if_neg more]
        exact ended_alike bounds count together

theorem runWatched_follows (keeps : Conservative left) (holds : Conservative right)
    (follows : Follows table same left right) {body : Matcher} (within : body.Within table)
    (id : RuleId) (together : Resembling one other)
    (told : ∀ position ∈ (runWatched left id body one).state.asked, same position) :
    (runWatched left id body one).Alike Resembling (fun _ => False)
      (runWatched right id body other) := by
  obtain ⟨cursor, trail, fuel, depth, journal⟩ := together.eqs
  have opened : Resembling { one with trail := one.trail.record [.rule id one.cursor] }
      { other with trail := other.trail.record [.rule id other.cursor] } :=
    .of_eqs cursor (by rw [cursor, trail]) fuel depth journal together.2
  have inner := follows body within _ _ opened
  have became := runWatched_cases keeps id body one
  have becameToo := runWatched_cases holds id body other
  rcases ran : left body { one with trail := one.trail.record [.rule id one.cursor] }
    with ⟨verdict, after⟩
  rw [ran] at inner became
  cases verdict with
  | matched =>
      obtain ⟨events, recorded, closed⟩ := became
      rw [closed] at told ⊢
      obtain ⟨behind, went, kept⟩ := Outcome.alike_iff.mp (inner told)
      rw [went] at becameToo
      obtain ⟨others, recordedToo, closedToo⟩ := becameToo
      -- the same events were recorded behind the open one
      obtain ⟨further, same, left, deep, noted⟩ := kept.eqs
      rw [recorded, recordedToo, trail, cursor] at same
      cases Trail.record_inj same
      rw [closedToo]
      refine .inr ⟨rfl, .of_eqs further ?_ left deep noted kept.2⟩
      simp only [trail, cursor, further]
  | failed =>
      rw [became] at told ⊢
      rw [Progress.asked_backtrack] at told
      obtain ⟨behind, went, kept⟩ := Outcome.alike_iff.mp (inner told)
      rw [went] at becameToo
      rw [becameToo, Progress.bookmark_congr cursor trail]
      exact .inr ⟨rfl, kept.backtrack one.bookmark⟩
  | stopped why =>
      rw [became] at told ⊢
      obtain ⟨behind, went, kept⟩ := Outcome.alike_iff.mp (inner told)
      rw [went] at becameToo
      rw [becameToo]
      exact .inr ⟨rfl, kept⟩

variable {r : Recognizer} {others : Array Lexeme}

def reading (r : Recognizer) (lexemes : Array Lexeme) : Recognizer := { r with lexemes := lexemes }

/-- Whether there are lexemes of one definition at a position, or none in either array. -/
def SameAt (r : Recognizer) (others : Array Lexeme) (position : Nat) : Prop :=
  (r.lexemes[position]?).map (·.id) = (others[position]?).map (·.id)

theorem alike_of_number {found other : Option Lexeme} (same : found.map (·.id) = other.map (·.id)) :
    other.map Lexeme.bare = found.map Lexeme.bare ∧
      ∀ id, other.any (·.id = id) = found.any (·.id = id) := by
  constructor
  · have whole := congrArg (Option.map fun id => (⟨id, ⟨0, "", []⟩, 0, 0⟩ : Lexeme)) same
    rw [Option.map_map, Option.map_map] at whole
    exact whole.symm
  · intro id
    have whole := congrArg (Option.any fun known => known = id) same
    simpa only [Option.any_map] using whole.symm

theorem testToken_follows {id : TokenId} {name : String}
    (named : r.table.lexicon.name? id = some name) (together : Resembling one other)
    (told : ∀ position ∈ (r.testToken id one).state.asked, r.SameAt others position) :
    (r.testToken id one).Alike Resembling (fun _ => False)
      ((r.reading others).testToken id other) := by
  obtain ⟨cursor, trail, fuel, depth, journal⟩ := together.eqs
  have noted : one.cursor ∈ (r.testToken id one).state.asked := by
    rw [testToken_of_named named]
    dsimp only
    split
    · exact Progress.mem_asked_note together.2 rfl
    · exact Progress.mem_asked_note together.2 rfl
  have here : (r.peek? one).map (·.id) = ((r.reading others).peek? other).map (·.id) := by
    have agreed := told one.cursor noted
    rwa [peek?, peek?, cursor]
  obtain ⟨bare, any⟩ := alike_of_number here
  rw [testToken_of_named named, testToken_of_named (r := r.reading others) named]
  dsimp only
  rw [any id, cursor]
  have step : Step.bare (.test id one.cursor ((r.reading others).peek? other)
      ((r.peek? one).any (·.id = id))) =
        Step.bare (.test id one.cursor (r.peek? one) ((r.peek? one).any (·.id = id))) := by
    rw [Step.bare, Step.bare, bare]
  have after := together.note step
  obtain ⟨-, -, spent, deep, added⟩ := after.eqs
  split
  · exact .inr ⟨rfl, .of_eqs rfl (by rw [trail]; rfl) spent deep added after.2⟩
  · exact .inr ⟨rfl, after⟩

theorem runBody_follows (others : Array Lexeme) (keeps : Conservative left)
    (holds : Conservative right) (follows : Follows r.table same left right) {body : Matcher}
    (within : body.Within r.table) (id : RuleId) (together : Resembling one other)
    (told : ∀ position ∈ (r.runBody left id body one).state.asked, same position) :
    (r.runBody left id body one).Alike Resembling (fun _ => False)
      ((r.reading others).runBody right id body other) := by
  unfold runBody at told ⊢
  by_cases watched : r.watch.watchesRule id = true
  · rw [if_pos watched] at told ⊢
    rw [reading, if_pos watched]
    exact runWatched_follows keeps holds follows within id together told
  · rw [if_neg watched] at told ⊢
    rw [reading, if_neg watched]
    exact follows body within one other together told

theorem asked_leaveRule (id : RuleId) (matched : Bool) (state : Progress) :
    (leaveRule id matched state).state.asked = state.asked := by
  unfold leaveRule
  cases state.depth with
  | zero => rfl
  | succ depth => exact Progress.asked_note_of_none rfl

theorem leaveRule_follows (id : RuleId) (matched : Bool) (together : Resembling one other) :
    (leaveRule id matched one).Alike Resembling (fun _ => False) (leaveRule id matched other) := by
  obtain ⟨cursor, trail, fuel, depth, journal⟩ := together.eqs
  unfold leaveRule
  rw [depth]
  cases one.depth with
  | zero => exact .inr ⟨rfl, together⟩
  | succ deep =>
      have outside : Resembling { one with depth := deep } { other with depth := deep } :=
        .of_eqs cursor trail fuel rfl journal together.2
      exact .inr ⟨rfl, outside.note (by rw [cursor])⟩

theorem runRule_follows (closed : r.table.Closed) (keeps : Conservative left)
    (holds : Conservative right) (follows : Follows r.table same left right) (id : RuleId)
    (together : Resembling one other)
    (told : ∀ position ∈ (r.runRule left id one).state.asked, same position) :
    (r.runRule left id one).Alike Resembling (fun _ => False)
      ((r.reading others).runRule right id other) := by
  obtain ⟨cursor, trail, fuel, depth, journal⟩ := together.eqs
  unfold runRule at told ⊢
  rw [show (r.reading others).limits = r.limits from rfl, depth,
    show (r.reading others).table = r.table from rfl]
  by_cases deep : r.limits.depth.toNat ≤ one.depth
  · rw [if_pos deep, if_pos deep]
    exact .inr ⟨rfl, together⟩
  · rw [if_neg deep] at told ⊢
    rw [if_neg deep]
    cases declared : r.table.rule? id with
    | none => exact .inr ⟨rfl, .of_eqs cursor trail fuel rfl journal together.2⟩
    | some rule =>
        rw [declared] at told
        dsimp only at told ⊢
        have entered : Resembling (one.enter id) (other.enter id) := by
          have inside : Resembling { one with depth := one.depth + 1 }
              { other with depth := other.depth + 1 } :=
            .of_eqs cursor trail fuel (congrArg Nat.succ depth) journal together.2
          exact inside.note (by rw [cursor])
        have inner := runBody_follows others keeps holds follows
          (closed id rule declared) id entered
        rcases ran : r.runBody left id rule.matcher (one.enter id) with ⟨verdict, after⟩
        rw [ran] at told inner
        cases verdict with
        | matched =>
            dsimp only at told ⊢
            rw [asked_leaveRule] at told
            obtain ⟨behind, went, kept⟩ := Outcome.alike_iff.mp (inner told)
            rw [went]
            exact leaveRule_follows id true kept
        | failed =>
            dsimp only at told ⊢
            rw [asked_leaveRule] at told
            obtain ⟨behind, went, kept⟩ := Outcome.alike_iff.mp (inner told)
            rw [went]
            exact leaveRule_follows id false kept
        | stopped why =>
            obtain ⟨behind, went, kept⟩ := Outcome.alike_iff.mp (inner told)
            rw [went]
            exact .inr ⟨rfl, kept⟩

theorem runMatcher_follows (closed : r.table.Closed) (adds : Adds r.table left)
    (keeps : Conservative left) (holds : Conservative right)
    (follows : Follows r.table (r.SameAt others) left right) :
    Follows r.table (r.SameAt others) (r.runMatcher left)
      ((r.reading others).runMatcher right) := by
  intro matcher within one other together told
  cases matcher with
  | token id =>
      obtain ⟨name, named⟩ := within
      exact testToken_follows named together told
  | rule id => exact runRule_follows closed keeps holds follows id together told
  | sequence parts =>
      unfold runMatcher runSequence at told ⊢
      dsimp only at told ⊢
      obtain ⟨cursor, trail, -⟩ := together.eqs
      rw [Outcome.asked_undone] at told
      rw [Progress.bookmark_congr cursor trail]
      exact undone_follows one.bookmark (runParts_follows adds follows parts within together told)
  | choice alternatives =>
      unfold runMatcher at told ⊢
      dsimp only at told ⊢
      obtain ⟨cursor, trail, -⟩ := together.eqs
      rw [Progress.bookmark_congr cursor trail]
      exact runChoice_follows adds keeps follows alternatives within together told
  | repeated bounds body =>
      unfold runMatcher runRepeated at told ⊢
      dsimp only at told ⊢
      obtain ⟨cursor, trail, fuel, -⟩ := together.eqs
      rw [Outcome.asked_undone] at told
      rw [Progress.bookmark_congr cursor trail, fuel]
      exact undone_follows one.bookmark
        (repeatFrom_follows adds follows bounds body within _ 0 together told)

theorem step_follows (closed : r.table.Closed) (adds : Adds r.table left)
    (keeps : Conservative left) (holds : Conservative right)
    (follows : Follows r.table (r.SameAt others) left right) :
    Follows r.table (r.SameAt others) (r.step left) ((r.reading others).step right) := by
  intro matcher within one other together told
  obtain ⟨cursor, trail, fuel, depth, journal⟩ := together.eqs
  unfold step at told ⊢
  rw [fuel]
  cases paid : one.fuel with
  | zero => exact .inr ⟨rfl, together⟩
  | succ left =>
      rw [paid] at told
      have spent : Resembling { one with fuel := left } { other with fuel := left } :=
        .of_eqs cursor trail rfl depth journal together.2
      exact runMatcher_follows closed adds keeps holds follows matcher within _ _ spent told

theorem tryWithin_adds (closed : r.table.Closed) (nesting : Nat) :
    Adds r.table (r.tryWithin nesting) :=
  fun _ => (companions_behind.paired closed).tryWithin nesting

theorem tryWithin_follows (closed : r.table.Closed) (nesting : Nat) :
    Follows r.table (r.SameAt others) (r.tryWithin nesting)
      ((r.reading others).tryWithin nesting) := by
  induction nesting with
  | zero => exact fun _ _ _ _ together _ => .inr ⟨rfl, together⟩
  | succ nesting ih =>
      exact step_follows closed (tryWithin_adds closed nesting) (tryWithin_conservative nesting)
        (tryWithin_conservative nesting) ih

theorem attempt_unobserved (closed : r.table.Closed) {matcher : Matcher}
    (within : matcher.Within r.table) (state : Progress) :
    let observed := r.attempt matcher { state with journal := some #[] }
    r.attempt matcher state.unobserved = ⟨observed.verdict, observed.state.unobserved⟩ := by
  intro observed
  have empty : r.Traceable { state with journal := some #[] } := by
    rintro - steps begun step member
    cases begun
    exact absurd member (Array.not_mem_empty step)
  have alike := (companions_unobserved.paired closed).tryWithin state.fuel matcher within
    { state with journal := some #[] } state.unobserved ⟨rfl, empty⟩
  obtain ⟨behind, ran, rfl, -⟩ := Outcome.alike_iff.mp alike
  exact ran

/-- A match hangs on nothing of the lexemes but their numbers, and on these only where a lexeme is
asked for. If another array has lexemes of the same numbers at the positions that were asked for,
and ends where the first one was found to end, then the same is asked for, all that comes of the
attempt is the same, and so it is where nobody observes it. -/
theorem attempt_of_sameAt {lexicon : Lexicon} {rules : List (String × String)}
    (made : RuleTable.ofRules lexicon rules = .ok r.table) {matcher : Matcher}
    (within : matcher.Within r.table) (state : Progress)
    (told : ∀ position ∈ (r.attempt matcher { state with journal := some #[] }).state.asked,
      r.SameAt others position) :
    let one := r.attempt matcher { state with journal := some #[] }
    let other := (r.reading others).attempt matcher { state with journal := some #[] }
    other.verdict = one.verdict ∧ other.state.cursor = one.state.cursor ∧
      other.state.trail = one.state.trail ∧ other.state.fuel = one.state.fuel ∧
      other.state.depth = one.state.depth ∧ other.state.asked = one.state.asked ∧
      other.state.journal.map (·.map Step.bare) = one.state.journal.map (·.map Step.bare) ∧
      (r.reading others).attempt matcher state.unobserved =
        r.attempt matcher state.unobserved := by
  intro one other
  have closed := RuleTable.ofRules_closed made
  rcases tryWithin_follows closed state.fuel matcher within { state with journal := some #[] } _
    ⟨rfl, rfl⟩ told with ⟨_, _, ⟨⟩⟩ | ⟨agreed, kept⟩
  obtain ⟨cursor, trail, fuel, depth, journal⟩ := kept.eqs
  refine ⟨agreed.symm, cursor, trail, fuel, depth, kept.asked, journal, ?_⟩
  rw [attempt_unobserved closed within state,
    attempt_unobserved (r := r.reading others) closed within state]
  refine congrArg₂ Outcome.mk agreed.symm ?_
  simp only [Progress.unobserved, Progress.mk.injEq]
  exact ⟨cursor, trail, fuel, depth, trivial⟩

/-- A list ends at another token, and what is behind that one is not asked for. -/
theorem attempt_of_sameAt_lists :
    let r : Recognizer := ⟨lists, .all lists, ⟨9, 2⟩, lexemesOf [⟨1⟩, ⟨1⟩, ⟨0⟩, ⟨1⟩]⟩
    let source : Source := ⟨7, "buff#3", "bba".toList⟩
    let others : Array Lexeme := #[⟨⟨1⟩, source, 0, 1⟩, ⟨⟨1⟩, source, 1, 2⟩, ⟨⟨0⟩, source, 2, 3⟩]
    let state := Progress.start r.limits (some #[])
    (r.attempt (.rule ⟨1⟩) state).state.asked = [0, 1, 2] ∧
      ((r.reading others).attempt (.rule ⟨1⟩) state).verdict = .matched ∧
      ((r.reading others).attempt (.rule ⟨1⟩) state).state.cursor = 2 := by
  intro r source others state
  have made : RuleTable.ofRules lists.lexicon [("pair", "list A list"), ("list", "B+")] =
      .ok lists := by cbv
  have within : (Matcher.rule ⟨1⟩).Within r.table := ⟨_, rfl⟩
  have asked : (r.attempt (.rule ⟨1⟩) state).state.asked = [0, 1, 2] := by decide +kernel
  have told : ∀ position ∈ (r.attempt (.rule ⟨1⟩) state).state.asked,
      r.SameAt others position := by
    rw [asked]
    simp [SameAt, r, others, lexemesOf]
  obtain ⟨verdict, cursor, -⟩ := attempt_of_sameAt made within state told
  exact ⟨asked, verdict.trans (by decide +kernel), cursor.trans (by decide +kernel)⟩

end Recognizer

end TextGrammar
