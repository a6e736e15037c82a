import Mathlib.Data.List.Forall2
import TextGrammar.Rules.RuleTable

/-!
Numbers in range. A table that is made from rule bodies is closed: every number in one of
its matchers is that of a declared rule or token.
-/

namespace TextGrammar

open Notation (Phrase)

mutual

def Matcher.Within (table : RuleTable) : Matcher → Prop
  | .token id => ∃ name, table.lexicon.name? id = some name
  | .rule id => ∃ rule, table.rule? id = some rule
  | .sequence parts => Matcher.AllWithin table parts
  | .choice alternatives => Matcher.AllWithin table alternatives
  | .repeated _ body => body.Within table

def Matcher.AllWithin (table : RuleTable) : List Matcher → Prop
  | [] => True
  | part :: rest => part.Within table ∧ Matcher.AllWithin table rest

end

/-- Whether the matchers of a table refer to nothing outside it. -/
def RuleTable.Closed (table : RuleTable) : Prop :=
  ∀ id rule, table.rule? id = some rule → rule.matcher.Within table

theorem idxOf?_mod_lt {names : List String} {name : String} {index : Nat}
    (found : names.idxOf? name = some index) : index % UInt32.size < names.length := by
  have located := List.findIdx?_eq_some_iff_getElem.mp found
  exact Nat.lt_of_le_of_lt (Nat.mod_le _ _) located.1

theorem Lexicon.name?_of_id? {lexicon : Lexicon} {name : String} {id : TokenId}
    (found : lexicon.id? name = some id) : ∃ known, lexicon.name? id = some known := by
  obtain ⟨index, located, same⟩ := Option.map_eq_some_iff.mp found
  subst same
  have bound : (TokenId.ofIndex index).index < lexicon.names.length := idxOf?_mod_lt located
  exact ⟨_, List.getElem?_eq_getElem bound⟩

theorem RuleTable.rule?_of_position {table : RuleTable} {names : List String} {name : String}
    {index : Nat} (sized : names.length = table.size)
    (located : names.idxOf? name = some index) :
    ∃ rule, table.rule? (.ofIndex index) = some rule := by
  have bound : (RuleId.ofIndex index).index < table.rules.size :=
    Nat.lt_of_lt_of_eq (idxOf?_mod_lt located) sized
  exact ⟨_, Array.getElem?_eq_getElem bound⟩

mutual

theorem resolve_within {table : RuleTable} {names : List String}
    (sized : names.length = table.size) (phrase : Phrase) (matcher : Matcher)
    (resolved : resolve names table.lexicon phrase = .ok matcher) : matcher.Within table := by
  cases phrase with
  | reference name =>
      rw [resolve] at resolved
      split at resolved
      · next index located =>
          cases resolved
          exact table.rule?_of_position sized located
      · split at resolved
        · next id found =>
            cases resolved
            exact Lexicon.name?_of_id? found
        · cases resolved
  | group inner => exact resolve_within sized inner matcher (by rwa [resolve] at resolved)
  | repeated bounds body =>
      rw [resolve] at resolved
      cases inside : resolve names table.lexicon body with
      | error name => rw [inside] at resolved; cases resolved
      | ok inner =>
          rw [inside] at resolved
          cases resolved
          exact resolve_within sized body inner inside
  | sequence parts =>
      rw [resolve] at resolved
      cases inside : resolveAll names table.lexicon parts with
      | error name => rw [inside] at resolved; cases resolved
      | ok matchers =>
          rw [inside] at resolved
          cases resolved
          exact resolveAll_within sized parts matchers inside
  | choice alternatives =>
      rw [resolve] at resolved
      cases inside : resolveAll names table.lexicon alternatives with
      | error name => rw [inside] at resolved; cases resolved
      | ok matchers =>
          rw [inside] at resolved
          cases resolved
          exact resolveAll_within sized alternatives matchers inside

theorem resolveAll_within {table : RuleTable} {names : List String}
    (sized : names.length = table.size) (phrases : List Phrase) (matchers : List Matcher)
    (resolved : resolveAll names table.lexicon phrases = .ok matchers) :
    Matcher.AllWithin table matchers := by
  cases phrases with
  | nil => cases resolved; trivial
  | cons phrase rest =>
      rw [resolveAll] at resolved
      cases first : resolve names table.lexicon phrase with
      | error name => rw [first] at resolved; cases resolved
      | ok matcher =>
          rw [first] at resolved
          cases others : resolveAll names table.lexicon rest with
          | error name => rw [others] at resolved; cases resolved
          | ok tail =>
              rw [others] at resolved
              cases resolved
              exact ⟨resolve_within sized phrase matcher first,
                resolveAll_within sized rest tail others⟩

end

theorem forall₂_of_mapM_ok {α β ε : Type} {read : α → Except ε β} {inputs : List α}
    {outputs : List β} (success : inputs.mapM read = .ok outputs) :
    List.Forall₂ (fun input output => read input = .ok output) inputs outputs := by
  induction inputs generalizing outputs with
  | nil => cases success; exact .nil
  | cons input rest ih =>
      rw [List.mapM_cons] at success
      cases first : read input with
      | error problem => rw [first] at success; cases success
      | ok output =>
          cases others : rest.mapM read with
          | error problem => rw [first, others] at success; cases success
          | ok tail =>
              rw [first, others] at success
              cases success
              exact .cons first (ih others)

theorem Rule.read_eq_ok {names : List String} {lexicon : Lexicon} {name body : String}
    {rule : Rule} (success : Rule.read names lexicon name body = .ok rule) :
    rule.name = name ∧ rule.body = body ∧ Phrase.ofBody body = .ok rule.phrase ∧
      resolve names lexicon rule.phrase = .ok rule.matcher := by
  unfold Rule.read at success
  split at success
  · cases success
  · next phrase read =>
      split at success
      · cases success
      · next resolved => cases success; exact ⟨rfl, rfl, read, resolved⟩

/-- What is so of every table made from names and bodies: it lists them in order, and each rule
has been read with the names of all. -/
structure RuleTable.Made (lexicon : Lexicon) (rules : List (String × String))
    (table : RuleTable) : Prop where
  nonempty : rules ≠ []
  distinct : firstRepeated? [] table.names = none
  known : table.lexicon = lexicon
  listed : table.rules.toList.map (fun rule => (rule.name, rule.body)) = rules
  read : ∀ rule ∈ table.rules.toList,
    Rule.read table.names table.lexicon rule.name rule.body = .ok rule

theorem listed_of_read {names : List String} {lexicon : Lexicon} {sources : List (String × String)}
    {rules : List Rule}
    (each : List.Forall₂ (fun source rule =>
      Rule.read names lexicon source.1 source.2 = .ok rule) sources rules) :
    rules.map (fun rule => (rule.name, rule.body)) = sources ∧
      ∀ rule ∈ rules, Rule.read names lexicon rule.name rule.body = .ok rule := by
  induction each with
  | nil => exact ⟨rfl, fun _ member => nomatch member⟩
  | cons read _ ih =>
      obtain ⟨name, body, -⟩ := Rule.read_eq_ok read
      constructor
      · rw [List.map_cons, ih.1, name, body]
      · refine List.forall_mem_cons.mpr ⟨?_, ih.2⟩
        rwa [name, body]

theorem RuleTable.made_of_ofRules {lexicon : Lexicon} {rules : List (String × String)}
    {table : RuleTable} (made : RuleTable.ofRules lexicon rules = .ok table) :
    table.Made lexicon rules := by
  unfold RuleTable.ofRules at made
  dsimp only at made
  split at made
  · cases made
  · next some =>
      split at made
      · cases made
      · next distinct =>
          split at made
          · cases made
          · next readings success =>
              cases made
              obtain ⟨listed, read⟩ := listed_of_read (forall₂_of_mapM_ok success)
              have names : readings.map (·.name) = rules.map (·.1) := by
                rw [← listed, List.map_map]
                rfl
              rw [← names] at distinct read
              exact ⟨by simpa using some, distinct, rfl, listed, read⟩

theorem RuleTable.Made.names {lexicon : Lexicon} {rules : List (String × String)}
    {table : RuleTable} (made : table.Made lexicon rules) : table.names = rules.map (·.1) := by
  rw [← made.listed, List.map_map]
  rfl

theorem RuleTable.Made.size_pos {lexicon : Lexicon} {rules : List (String × String)}
    {table : RuleTable} (made : table.Made lexicon rules) : 0 < table.size := by
  have counted := congrArg List.length made.listed
  have some := List.length_pos_iff.mpr made.nonempty
  rw [List.length_map, Array.length_toList] at counted
  rwa [← counted] at some

theorem RuleTable.Made.within {lexicon : Lexicon} {rules : List (String × String)}
    {table : RuleTable} (made : table.Made lexicon rules) :
    ∀ rule ∈ table.rules.toList, rule.matcher.Within table := by
  intro rule member
  have sized : table.names.length = table.size := by simp [RuleTable.names, RuleTable.size]
  exact resolve_within sized rule.phrase rule.matcher
    (Rule.read_eq_ok (made.read rule member)).2.2.2

theorem RuleTable.ofRules_closed {lexicon : Lexicon} {rules : List (String × String)}
    {table : RuleTable} (made : RuleTable.ofRules lexicon rules = .ok table) : table.Closed := by
  intro id rule found
  apply (RuleTable.made_of_ofRules made).within rule
  simpa using Array.mem_of_getElem? found

end TextGrammar
