import TextGrammar.Matching.Journal
import TextGrammar.Proofs.Matching.Lockstep
import TextGrammar.Proofs.Matching.Restriction

/-!
What is noted of a match. Whether its steps are noted makes no difference to a match, and every
number that a step is shown with has a name, if the lexemes were cut by the lexicon of the table.
-/

namespace TextGrammar

def RuleTable.nameOf (table : RuleTable) : Subject → Except Fault String
  | .rule id => table.ruleName id
  | .token id => table.tokenName id

/-- Whether every lexeme is under a number that a lexicon has a name for. -/
def Lexicon.Labels (lexicon : Lexicon) (lexemes : Array Lexeme) : Prop :=
  ∀ lexeme ∈ lexemes, ∃ name, lexicon.name? lexeme.id = some name

def Step.subjects : Step → List Subject
  | .enter rule _ | .leave rule _ _ => [.rule rule]
  | .test expected _ (some lexeme) false => [.token expected, .token lexeme.id]
  | .test expected _ _ _ => [.token expected]
  | .backtrack _ _ => []

def RuleTable.Shows (table : RuleTable) (step : Step) : Prop :=
  ∀ subject ∈ step.subjects, ∃ name, table.nameOf subject = .ok name

namespace RuleTable

variable {table : RuleTable} {step : Step}

theorem exists_stepText (shows : table.Shows step) : ∃ line, table.stepText step = .ok line := by
  cases step with
  | enter rule cursor =>
      obtain ⟨name, named⟩ := List.forall_mem_singleton.mp shows
      rw [nameOf] at named
      exact ⟨_, by rw [stepText, named, Except.map]⟩
  | leave rule cursor matched =>
      obtain ⟨name, named⟩ := List.forall_mem_singleton.mp shows
      rw [nameOf] at named
      cases matched <;> exact ⟨_, by rw [stepText, named, Except.map]⟩
  | test expected cursor found matched =>
      obtain ⟨name, named⟩ : ∃ name, table.nameOf (.token expected) = .ok name := by
        apply shows
        rcases found with _ | lexeme
        · exact List.mem_singleton_self _
        · cases matched <;> exact List.mem_cons_self
      rw [nameOf] at named
      cases found with
      | none => exact ⟨_, by simp only [stepText, named]; rfl⟩
      | some lexeme =>
          cases matched with
          | true => exact ⟨_, by simp only [stepText, named]; rfl⟩
          | false =>
              obtain ⟨other, namedToo⟩ := shows (.token lexeme.id) (List.mem_pair.mpr (.inr rfl))
              rw [nameOf] at namedToo
              exact ⟨_, by simp only [stepText, named, namedToo]; rfl⟩
  | backtrack start stop => exact ⟨_, rfl⟩

theorem exists_journalFrom {steps : List Step} (shows : ∀ step ∈ steps, table.Shows step)
    (depth : Nat) : ∃ lines, table.journalFrom depth steps = .ok lines := by
  induction steps generalizing depth with
  | nil => exact ⟨[], rfl⟩
  | cons step rest ih =>
      obtain ⟨here, later⟩ := List.forall_mem_cons.mp shows
      obtain ⟨line, shown⟩ := exists_stepText here
      obtain ⟨lines, printed⟩ := ih later (step.levelBehind depth)
      exact ⟨_, by rw [journalFrom, shown]; dsimp only; rw [printed, Except.map]⟩

end RuleTable

def Progress.unobserved (state : Progress) : Progress := { state with journal := none }

theorem Progress.unobserved_backtrack (state : Progress) (place : Bookmark) :
    (state.backtrack place).unobserved = state.unobserved.backtrack place :=
  change_backtrack unobserved (fun _ => rfl) (fun _ _ _ => rfl) (fun _ _ => rfl) state place

namespace Recognizer

def Traceable (r : Recognizer) (state : Progress) : Prop :=
  r.table.lexicon.Labels r.lexemes → ∀ steps, state.journal = some steps →
    ∀ step ∈ steps, r.table.Shows step

variable {r : Recognizer} {state : Progress} {step : Step}

theorem Traceable.note (traceable : r.Traceable state)
    (shows : r.table.lexicon.Labels r.lexemes → r.table.Shows step) :
    r.Traceable (state.note step) := by
  intro labelled steps noted later member
  obtain ⟨before, observed, rfl⟩ := Option.map_eq_some_iff.mp noted
  rcases Array.mem_push.mp member with earlier | last
  · exact traceable labelled before observed later earlier
  · exact last ▸ shows labelled

theorem Traceable.backtrack (traceable : r.Traceable state) (place : Bookmark) :
    r.Traceable (state.backtrack place) := by
  unfold Progress.backtrack
  split
  · exact traceable
  · exact traceable.note fun _ _ member => nomatch member

theorem Traceable.printed (traceable : r.Traceable state)
    (labelled : r.table.lexicon.Labels r.lexemes) :
    ∃ lines, r.table.journalLines (state.journal.getD #[]) = .ok lines := by
  apply RuleTable.exists_journalFrom
  intro step member
  cases noted : state.journal with
  | none =>
      rw [noted] at member
      cases member
  | some steps =>
      rw [noted] at member
      exact traceable labelled steps noted step (Array.mem_toList_iff.mp member)

theorem shows_test {id : TokenId} {name : String} (named : r.table.lexicon.name? id = some name)
    (cursor : Nat) (matched : Bool) (labelled : r.table.lexicon.Labels r.lexemes) :
    r.table.Shows (.test id cursor (r.peek? state) matched) := by
  have expected := RuleTable.tokenName_of_name? named
  cases seen : r.peek? state with
  | none => exact List.forall_mem_singleton.mpr ⟨name, expected⟩
  | some lexeme =>
      obtain ⟨other, known⟩ := labelled lexeme (Array.mem_of_getElem? seen)
      cases matched with
      | true => exact List.forall_mem_singleton.mpr ⟨name, expected⟩
      | false =>
          -- the line says what was expected and what was there instead
          have found := RuleTable.tokenName_of_name? known
          exact List.forall_mem_cons.mpr
            ⟨⟨name, expected⟩, List.forall_mem_singleton.mpr ⟨other, found⟩⟩

def Unobserved (r : Recognizer) (one other : Progress) : Prop :=
  other = one.unobserved ∧ r.Traceable one

theorem lockstep_unobserved : Lockstep r.Unobserved where
  fuel := by
    rintro left _ ⟨rfl, -⟩
    rfl
  spend := by
    rintro left _ fuel ⟨rfl, traceable⟩
    exact ⟨rfl, traceable⟩
  still := by
    rintro left _ further _ ⟨rfl, -⟩ ⟨rfl, -⟩
    exact Iff.rfl
  back := by
    rintro left _ further _ ⟨rfl, -⟩ ⟨rfl, traceable⟩ - -
    exact ⟨(further.unobserved_backtrack left.bookmark).symm, traceable.backtrack left.bookmark⟩

theorem companions_unobserved : r.Companions r r.Unobserved fun _ => False where
  lockstep := lockstep_unobserved
  table := rfl
  watch := rfl
  room := Nat.le_refl _
  full := .inl rfl
  depth := by
    rintro one _ ⟨rfl, -⟩
    rfl
  opens := by
    rintro id one _ ⟨rfl, traceable⟩
    exact ⟨rfl, traceable⟩
  closes := by
    rintro id one _ after _ events others ⟨rfl, -⟩ ⟨rfl, traceable⟩ recorded recordedToo
    cases Trail.record_inj (recorded.symm.trans recordedToo)
    exact ⟨rfl, traceable⟩
  enter := by
    rintro id rule declared one _ ⟨rfl, traceable⟩
    refine ⟨rfl, Traceable.note traceable fun _ => ?_⟩
    exact List.forall_mem_singleton.mpr ⟨_, RuleTable.ruleName_of_rule? declared⟩
  leave := by
    rintro id rule declared one _ depth matched ⟨rfl, traceable⟩
    refine ⟨rfl, Traceable.note traceable fun _ => ?_⟩
    exact List.forall_mem_singleton.mpr ⟨_, RuleTable.ruleName_of_rule? declared⟩
  token := by
    rintro id name named one _ ⟨rfl, traceable⟩
    rw [testToken_of_named named, testToken_of_named named]
    dsimp only
    have shown : ∀ matched, r.Traceable (one.note (.test id one.cursor (r.peek? one) matched)) :=
      fun matched => traceable.note (shows_test named one.cursor matched)
    change Outcome.Alike _ _ _ (if (r.peek? one).any (·.id = id) then _ else _)
    by_cases same : (r.peek? one).any (·.id = id) = true
    · rw [if_pos same, if_pos same]
      exact .inr ⟨rfl, rfl, shown _⟩
    · rw [if_neg same, if_neg same]
      exact .inr ⟨rfl, rfl, shown _⟩

/-- A run whose steps are noted, from the beginning, is the run of which nothing is noted and the
steps besides, which can all be shown. -/
theorem run_unobserved (closed : r.table.Closed) {id : RuleId} {rule : Rule}
    (declared : r.table.rule? id = some rule) :
    (r.run id none).verdict = (r.run id (some #[])).verdict ∧
      (r.run id none).state = (r.run id (some #[])).state.unobserved ∧
      r.Traceable (r.run id (some #[])).state := by
  have empty : r.Traceable (.start r.limits (some #[])) := by
    rintro - steps begun step member
    cases begun
    exact absurd member (Array.not_mem_empty step)
  have alike := companions_unobserved.run_alike closed declared rfl (some #[]) none ⟨rfl, empty⟩
  rcases alike with ⟨-, -, ⟨⟩⟩ | ⟨agreed, same, traceable⟩
  exact ⟨agreed.symm, same, traceable⟩

end Recognizer

end TextGrammar
