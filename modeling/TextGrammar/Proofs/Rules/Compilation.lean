import TextGrammar.Proofs.Matching.Faultless
import TextGrammar.Proofs.Matching.Observation
import TextGrammar.Proofs.Rules.Resolution

/-!
Rule tables and what they are made from. A table is its rules in order, each with its phrase and
with a matcher that is this phrase with every name looked up. So nothing that is done with a
table asks for a rule or a token that is not there. Where there is no table, what is reported is
the first thing wrong.
-/

namespace TextGrammar

open Notation (Phrase BodyError)

theorem firstRepeated?_eq_none_iff {seen names : List String} :
    firstRepeated? seen names = none ↔ names.Nodup ∧ ∀ name ∈ names, name ∉ seen := by
  induction names generalizing seen with
  | nil => simp [firstRepeated?]
  | cons first rest ih =>
      rw [firstRepeated?, List.nodup_cons, List.forall_mem_cons]
      by_cases taken : first ∈ seen
      · simp [taken]
      · rw [if_neg taken, ih]
        constructor
        · rintro ⟨distinct, fresh⟩
          refine ⟨⟨fun again => fresh first again List.mem_cons_self, distinct⟩, taken, ?_⟩
          exact fun name later earlier => fresh name later (List.mem_cons_of_mem first earlier)
        · rintro ⟨⟨once, distinct⟩, -, fresh⟩
          refine ⟨distinct, fun name later earlier => ?_⟩
          rcases List.mem_cons.mp earlier with same | before
          · exact once (same ▸ later)
          · exact fresh name later before

theorem firstRepeated?_eq_some_iff {seen names : List String} {name : String} :
    firstRepeated? seen names = some name ↔ ∃ front back, names = front ++ name :: back ∧
      front.Nodup ∧ (∀ earlier ∈ front, earlier ∉ seen) ∧ (name ∈ seen ∨ name ∈ front) := by
  induction names generalizing seen with
  | nil => simp [firstRepeated?]
  | cons first rest ih =>
      rw [firstRepeated?]
      by_cases taken : first ∈ seen
      · rw [if_pos taken]
        constructor
        · intro same
          cases same
          exact ⟨[], rest, rfl, List.nodup_nil, List.forall_mem_nil _, .inl taken⟩
        · rintro ⟨_ | ⟨other, front⟩, back, split, -, fresh, -⟩
          · cases split
            rfl
          · cases split
            exact absurd taken (fresh first List.mem_cons_self)
      · rw [if_neg taken, ih]
        constructor
        · rintro ⟨front, back, rfl, distinct, fresh, again⟩
          refine ⟨first :: front, back, rfl, ?_, ?_, ?_⟩
          · exact List.nodup_cons.mpr
              ⟨fun later => fresh first later List.mem_cons_self, distinct⟩
          · rw [List.forall_mem_cons]
            exact ⟨taken, fun earlier member before =>
              fresh earlier member (List.mem_cons_of_mem first before)⟩
          · simpa [or_assoc, or_comm, or_left_comm] using again
        · rintro ⟨_ | ⟨other, front⟩, back, split, distinct, fresh, again⟩
          · cases split
            simp [taken] at again
          · cases split
            obtain ⟨once, others⟩ := List.nodup_cons.mp distinct
            refine ⟨front, back, rfl, others, fun earlier member before => ?_, ?_⟩
            · rcases List.mem_cons.mp before with same | long
              · exact once (same ▸ member)
              · exact fresh earlier (List.mem_cons_of_mem first member) long
            · simpa [or_assoc, or_comm, or_left_comm] using again

theorem mapM_eq_error_iff {α β ε : Type} {read : α → Except ε β} {inputs : List α}
    {problem : ε} : inputs.mapM read = .error problem ↔ ∃ front input back,
      inputs = front ++ input :: back ∧ read input = .error problem ∧
        ∀ earlier ∈ front, ∀ other, read earlier ≠ .error other := by
  induction inputs with
  | nil => simp [pure, Except.pure]
  | cons first rest ih =>
      rw [List.mapM_cons]
      cases result : read first with
      | error other =>
          constructor
          · intro same
            cases same
            exact ⟨[], first, rest, rfl, result, List.forall_mem_nil _⟩
          · rintro ⟨_ | ⟨head, front⟩, input, back, split, wrong, fine⟩
            · cases split
              cases result.symm.trans wrong
              rfl
            · cases split
              exact absurd result (fine first List.mem_cons_self other)
      | ok output =>
          -- what is wrong is in the rest, and the item that was read joins those in front of it
          have same : (Except.ok output >>= fun head => rest.mapM read >>= fun tail =>
              pure (head :: tail)) = (rest.mapM read).map (output :: ·) := by
            cases rest.mapM read <;> rfl
          rw [same, map_eq_error_iff, ih]
          constructor
          · rintro ⟨front, input, back, rfl, wrong, fine⟩
            refine ⟨first :: front, input, back, rfl, wrong, List.forall_mem_cons.mpr ⟨?_, fine⟩⟩
            intro other failed
            cases result.symm.trans failed
          · rintro ⟨_ | ⟨head, front⟩, input, back, split, wrong, fine⟩
            · cases split
              cases result.symm.trans wrong
            · cases split
              exact ⟨front, input, back, rfl, wrong, fun earlier member =>
                fine earlier (List.mem_cons_of_mem first member)⟩

/-- What is wrong with a rule: that its body says nothing, or else the first name in it, from
left to right, that means nothing. -/
inductive Rule.Wrong (names : List String) (lexicon : Lexicon) (name body : String) :
    RuleError → Prop where
  | body {cause : BodyError} (unread : Phrase.ofBody body = .error cause) :
      Wrong names lexicon name body (.body name cause)
  | unknownName {phrase : Phrase} {unknown : String} (read : Phrase.ofBody body = .ok phrase)
      (first : phrase.names.find? (fun name => !means names lexicon name) = some unknown) :
      Wrong names lexicon name body (.unknownName name unknown)

theorem Rule.read_eq_error_iff {names : List String} {lexicon : Lexicon} {name body : String}
    {error : RuleError} : Rule.read names lexicon name body = .error error ↔
      Rule.Wrong names lexicon name body error := by
  constructor
  · intro failed
    unfold Rule.read at failed
    split at failed
    · next unread =>
        cases failed
        exact .body unread
    · next read =>
        split at failed
        · next unresolved =>
            cases failed
            exact .unknownName read ((resolve_eq_error_iff _ _).mp unresolved)
        · cases failed
  · intro wrong
    cases wrong with
    | body unread => rw [Rule.read, unread]
    | unknownName read first =>
        rw [Rule.read, read]
        dsimp only
        rw [(resolve_eq_error_iff _ _).mpr first]

/-- What is wrong with a list of rules. That there are none and that a name is there for a
second time is wrong whatever the bodies are; otherwise it is what is wrong with the first rule
with something wrong. -/
inductive RuleTable.Wrong (lexicon : Lexicon) (rules : List (String × String)) :
    RuleError → Prop where
  | noRules (none : rules = []) : Wrong lexicon rules .noRules
  | duplicateRule {front back : List String} {name : String}
      (split : rules.map (·.1) = front ++ name :: back) (distinct : front.Nodup)
      (again : name ∈ front) : Wrong lexicon rules (.duplicateRule name)
  | rule {front back : List (String × String)} {name body : String} {error : RuleError}
      (distinct : (rules.map (·.1)).Nodup) (split : rules = front ++ (name, body) :: back)
      (fine : ∀ earlier ∈ front, ∀ other,
        ¬Rule.Wrong (rules.map (·.1)) lexicon earlier.1 earlier.2 other)
      (wrong : Rule.Wrong (rules.map (·.1)) lexicon name body error) : Wrong lexicon rules error

theorem RuleTable.ofRules_eq_error_iff {lexicon : Lexicon} {rules : List (String × String)}
    {error : RuleError} :
    RuleTable.ofRules lexicon rules = .error error ↔ RuleTable.Wrong lexicon rules error := by
  constructor
  · intro failed
    unfold RuleTable.ofRules at failed
    dsimp only at failed
    split at failed
    · next none =>
        cases failed
        exact .noRules (List.isEmpty_iff.mp none)
    · split at failed
      · next name repeated =>
          cases failed
          obtain ⟨front, back, split, distinct, -, again⟩ := firstRepeated?_eq_some_iff.mp repeated
          exact .duplicateRule split distinct (by simpa using again)
      · next unrepeated =>
          split at failed
          · next problem unread =>
              cases failed
              obtain ⟨front, ⟨name, body⟩, back, split, wrong, fine⟩ := mapM_eq_error_iff.mp unread
              refine .rule (firstRepeated?_eq_none_iff.mp unrepeated).1 split ?_
                (Rule.read_eq_error_iff.mp wrong)
              exact fun earlier member other amiss =>
                fine earlier member other (Rule.read_eq_error_iff.mpr amiss)
          · cases failed
  · intro wrong
    cases wrong with
    | noRules none =>
        subst none
        rfl
    | @duplicateRule front back name split distinct again =>
        have some : ¬rules.isEmpty = true := by
          rintro none
          simp [List.isEmpty_iff.mp none] at split
        have repeated : firstRepeated? [] (rules.map (·.1)) = .some name :=
          firstRepeated?_eq_some_iff.mpr
            ⟨front, back, split, distinct, fun _ _ => List.not_mem_nil, .inr again⟩
        rw [RuleTable.ofRules, if_neg some, repeated]
    | @rule front back name body error distinct split fine wrong =>
        have some : ¬rules.isEmpty = true := by simp [split]
        have unrepeated : firstRepeated? [] (rules.map (·.1)) = none :=
          firstRepeated?_eq_none_iff.mpr ⟨distinct, fun _ _ => List.not_mem_nil⟩
        have unread : rules.mapM (fun source =>
            Rule.read (rules.map (·.1)) lexicon source.1 source.2) = .error error := by
          apply mapM_eq_error_iff.mpr
          refine ⟨front, (name, body), back, split, Rule.read_eq_error_iff.mpr wrong, ?_⟩
          exact fun earlier member other failed =>
            fine earlier member other (Rule.read_eq_error_iff.mp failed)
        rw [RuleTable.ofRules, if_neg some, unrepeated]
        dsimp only
        rw [unread]

mutual

theorem text_of_within {table : RuleTable} (matcher : Matcher) (within : matcher.Within table) :
    ∃ text, matcher.text table.naming = .ok text := by
  cases matcher with
  | token id =>
      obtain ⟨name, named⟩ := within
      exact ⟨name, RuleTable.tokenName_of_name? named⟩
  | rule id =>
      obtain ⟨rule, declared⟩ := within
      exact ⟨"<" ++ rule.name ++ ">",
        by simp [Matcher.text, RuleTable.naming, RuleTable.ruleName_of_rule? declared, Except.map]⟩
  | sequence parts =>
      obtain ⟨text, shown⟩ := texts_of_allWithin parts within
      exact ⟨"(seq" ++ text ++ ")", by simp [Matcher.text, shown, Except.map]⟩
  | choice alternatives =>
      obtain ⟨text, shown⟩ := texts_of_allWithin alternatives within
      exact ⟨"(alt" ++ text ++ ")", by simp [Matcher.text, shown, Except.map]⟩
  | repeated bounds body =>
      obtain ⟨text, shown⟩ := text_of_within body within
      exact ⟨"(occur " ++ bounds.text ++ " " ++ text ++ ")",
        by simp [Matcher.text, shown, Except.map]⟩

theorem texts_of_allWithin {table : RuleTable} (matchers : List Matcher)
    (within : Matcher.AllWithin table matchers) :
    ∃ text, Matcher.texts table.naming matchers = .ok text := by
  cases matchers with
  | nil => exact ⟨"", rfl⟩
  | cons matcher rest =>
      obtain ⟨first, shown⟩ := text_of_within matcher within.1
      obtain ⟨others, shownToo⟩ := texts_of_allWithin rest within.2
      exact ⟨" " ++ first ++ others, by simp [Matcher.texts, shown, shownToo, Except.map]⟩

end

theorem RuleTable.Made.listing {lexicon : Lexicon} {rules : List (String × String)}
    {table : RuleTable} (made : table.Made lexicon rules) :
    ∃ text, table.listing = .ok text := by
  cases listed : table.listing with
  | ok text => exact ⟨text, rfl⟩
  | error fault =>
      unfold RuleTable.listing at listed
      obtain ⟨front, rule, back, split, failed, -⟩ :=
        mapM_eq_error_iff.mp (map_eq_error_iff.mp listed)
      have member : rule ∈ table.rules.toList := by simp [split]
      obtain ⟨text, shown⟩ := text_of_within rule.matcher (made.within rule member)
      cases shown.symm.trans (map_eq_error_iff.mp failed)

theorem RuleTable.Made.numbered {lexicon : Lexicon} {rules : List (String × String)}
    {table : RuleTable} (made : table.Made lexicon rules) (tokens : lexicon.size ≤ UInt32.size)
    (few : rules.length ≤ UInt32.size) : table.Numbered where
  distinct := (firstRepeated?_eq_none_iff.mp made.distinct).1
  rules := by
    have counted := congrArg List.length made.listed
    rw [List.length_map, Array.length_toList] at counted
    rwa [RuleTable.size, counted]
  tokens := made.known ▸ tokens

/-- Whether a table is what names and bodies say, and safe to be run, shown and traced. -/
structure RuleTable.Compiled (lexicon : Lexicon) (rules : List (String × String))
    (table : RuleTable) : Prop where
  known : table.lexicon = lexicon
  listed : table.rules.toList.map (fun rule => (rule.name, rule.body)) = rules
  numbered : ∀ name id,
    table.ruleId? name = some id ↔ (table.ruleOf id).map (·.name) = .ok name
  read : ∀ rule ∈ table.rules.toList,
    Phrase.ofBody rule.body = .ok rule.phrase ∧ table.Reads rule.phrase rule.matcher
  closed : table.Closed
  listing : ∃ text, table.listing = .ok text
  faultless : ∀ watch limits lexemes id journal fault, id.index < table.size →
    ((⟨table, watch, limits, lexemes⟩ : Recognizer).run id journal).verdict ≠
      .stopped (.fault fault)
  traced : ∀ watch limits lexemes id steps, id.index < table.size → lexicon.Labels lexemes →
    ((⟨table, watch, limits, lexemes⟩ : Recognizer).run id (some #[])).state.journal = some steps →
    ∀ step ∈ steps, table.Shows step

/-- From no more rules and tokens than there are numbers, a table is made that is what the names
and bodies say and safe to use; or what is reported is the first thing wrong with them. -/
theorem RuleTable.ofRules_compiles (lexicon : Lexicon) (rules : List (String × String))
    (tokens : lexicon.size ≤ UInt32.size) (few : rules.length ≤ UInt32.size) :
    (∀ table, RuleTable.ofRules lexicon rules = .ok table → table.Compiled lexicon rules) ∧
      ∀ error, RuleTable.ofRules lexicon rules = .error error ↔
        RuleTable.Wrong lexicon rules error := by
  refine ⟨fun table success => ?_, fun error => RuleTable.ofRules_eq_error_iff⟩
  have made := RuleTable.made_of_ofRules success
  have numbered := made.numbered tokens few
  have closed := RuleTable.ofRules_closed success
  have declared : ∀ {id : RuleId}, id.index < table.size → ∃ rule, table.rule? id = some rule :=
    fun bound => ⟨_, Array.getElem?_eq_getElem bound⟩
  constructor
  case known => exact made.known
  case listed => exact made.listed
  case numbered => exact fun _ _ => numbered.ruleId?_eq_some_iff
  case read =>
    intro rule member
    obtain ⟨-, -, read, resolved⟩ := Rule.read_eq_ok (made.read rule member)
    exact ⟨read, reads_of_resolve numbered rule.phrase rule.matcher resolved⟩
  case closed => exact closed
  case listing => exact made.listing
  case faultless =>
    intro watch limits lexemes id journal fault bound
    obtain ⟨rule, known⟩ := declared bound
    exact Recognizer.run_faultless (r := ⟨table, watch, limits, lexemes⟩) closed known journal fault
  case traced =>
    intro watch limits lexemes id steps bound labelled
    obtain ⟨rule, known⟩ := declared bound
    obtain ⟨-, -, traceable⟩ :=
      Recognizer.run_unobserved (r := ⟨table, watch, limits, lexemes⟩) closed known
    exact traceable (made.known ▸ labelled) steps

open Recognizer (lists) in
/-- A rule may refer to one behind it. Where one refers to nothing, what is wrong with those
behind it is not reported. -/
theorem RuleTable.ofRules_compiles_lists :
    let rules := [("pair", "list A list"), ("list", "B+")]
    let mistaken := [("pair", "list (A | other) list"), ("list", "B+"), ("rest", "")]
    lists.Compiled lists.lexicon rules ∧
      RuleTable.Wrong lists.lexicon mistaken (.unknownName "pair" "other") := by
  intro rules mistaken
  constructor
  · apply (RuleTable.ofRules_compiles lists.lexicon rules (by decide) (by decide)).1
    cbv
  · apply ((RuleTable.ofRules_compiles lists.lexicon mistaken (by decide) (by decide)).2 _).mp
    cbv

end TextGrammar
