import TextGrammar.Proofs.Rules.Range

/-!
Names and what they mean. Where no two rules have one name and 32 bits are enough, a rule and
its number tell each other, and so do a token and its own. So the matcher of a rule is its
phrase with a number for each name, and the first name without a meaning is what is wrong with
the rule.
-/

namespace TextGrammar

open Notation (Phrase Bounds BodyError)

theorem idxOf?_eq_some_iff_of_nodup {names : List String} (distinct : names.Nodup) {name : String}
    {index : Nat} : names.idxOf? name = some index ↔ names[index]? = some name := by
  rw [List.idxOf?_eq_some_iff, List.getElem?_eq_some_iff]
  constructor
  · rintro ⟨bound, here, -⟩
    exact ⟨bound, here⟩
  · rintro ⟨bound, here⟩
    refine ⟨bound, here, fun earlier before same => ?_⟩
    have twice := (List.getElem_inj distinct).mp (same.trans here.symm)
    omega

namespace Lexicon

variable {lexicon : Lexicon} {name : String} {id : TokenId}

theorem id?_eq_some_iff (few : lexicon.size ≤ UInt32.size) :
    lexicon.id? name = some id ↔ lexicon.name? id = some name := by
  have distinct : lexicon.names.Nodup := lexicon.distinct
  rw [id?, Option.map_eq_some_iff, name?, ← idxOf?_eq_some_iff_of_nodup distinct]
  constructor
  · rintro ⟨index, located, rfl⟩
    have bound : index < lexicon.names.length := (List.idxOf?_eq_some_iff.mp located).1
    rw [names, List.length_map] at bound
    rwa [TokenId.index_ofIndex index (Nat.lt_of_lt_of_le bound few)]
  · intro located
    exact ⟨id.index, located, by simp [TokenId.ofIndex, TokenId.index]⟩

theorem id?_eq_none_iff : lexicon.id? name = none ↔ name ∉ lexicon.names := by
  rw [id?, Option.map_eq_none_iff, List.idxOf?_eq_none_iff]

theorem mem_names_of_id? (found : lexicon.id? name = some id) : name ∈ lexicon.names := by
  by_contra absent
  rw [id?_eq_none_iff.mpr absent] at found
  cases found

end Lexicon

namespace RuleTable

structure Numbered (table : RuleTable) : Prop where
  distinct : table.names.Nodup
  rules : table.size ≤ UInt32.size
  tokens : table.lexicon.size ≤ UInt32.size

variable {table : RuleTable} {name : String} {id : RuleId}

theorem getElem?_names (index : Nat) :
    table.names[index]? = (table.rules[index]?).map (·.name) := by
  simp [names]

theorem ruleId?_eq_some_iff_of_nodup (distinct : table.names.Nodup)
    (few : table.size ≤ UInt32.size) :
    table.ruleId? name = some id ↔ (table.rule? id).map (·.name) = some name := by
  rw [rule?, ← getElem?_names, ruleId?, Option.map_eq_some_iff,
    ← idxOf?_eq_some_iff_of_nodup distinct]
  constructor
  · rintro ⟨index, located, rfl⟩
    have bound : index < table.names.length := (List.idxOf?_eq_some_iff.mp located).1
    rw [names, List.length_map, Array.length_toList] at bound
    rwa [RuleId.index_ofIndex index (Nat.lt_of_lt_of_le bound few)]
  · intro located
    exact ⟨id.index, located, by simp [RuleId.ofIndex, RuleId.index]⟩

theorem Numbered.ruleId?_eq_some_iff (numbered : table.Numbered) :
    table.ruleId? name = some id ↔ (table.ruleOf id).map (·.name) = .ok name := by
  rw [ruleId?_eq_some_iff_of_nodup numbered.distinct numbered.rules, ruleOf]
  cases table.rule? id <;> simp [Except.map]

theorem ruleId?_eq_none_iff : table.ruleId? name = none ↔ name ∉ table.names := by
  rw [ruleId?, Option.map_eq_none_iff, List.idxOf?_eq_none_iff]

theorem mem_names_of_ruleId? (found : table.ruleId? name = some id) : name ∈ table.names := by
  by_contra absent
  rw [ruleId?_eq_none_iff.mpr absent] at found
  cases found

/-- Whether a matcher is a phrase without its parentheses, and with a number for each name: that
of the rule with this name, and that of the token where no rule has it. -/
inductive Reads (table : RuleTable) : Phrase → Matcher → Prop where
  | rule {name : String} {id : RuleId} (named : (table.ruleOf id).map (·.name) = .ok name) :
      Reads table (.reference name) (.rule id)
  | token {name : String} {id : TokenId} (undeclared : name ∉ table.names)
      (named : table.lexicon.nameOf id = .ok name) : Reads table (.reference name) (.token id)
  | group {inner : Phrase} {matcher : Matcher} (inside : Reads table inner matcher) :
      Reads table (.group inner) matcher
  | repeated {bounds : Bounds} {body : Phrase} {matcher : Matcher}
      (inside : Reads table body matcher) :
      Reads table (.repeated bounds body) (.repeated bounds matcher)
  | sequence {parts : List Phrase} {matchers : List Matcher}
      (each : List.Forall₂ (Reads table) parts matchers) :
      Reads table (.sequence parts) (.sequence matchers)
  | choice {alternatives : List Phrase} {matchers : List Matcher}
      (each : List.Forall₂ (Reads table) alternatives matchers) :
      Reads table (.choice alternatives) (.choice matchers)

end RuleTable

section Resolve

variable {table : RuleTable}

theorem reads_of_reference (numbered : table.Numbered) {name : String} {matcher : Matcher}
    (resolved : resolve table.names table.lexicon (.reference name) = .ok matcher) :
    table.Reads (.reference name) matcher := by
  rw [resolve] at resolved
  -- a rule goes before a token of the same name
  cases located : table.names.idxOf? name with
  | some index =>
      rw [located] at resolved
      cases resolved
      apply RuleTable.Reads.rule
      apply numbered.ruleId?_eq_some_iff.mp
      rw [RuleTable.ruleId?, located]
      rfl
  | none =>
      rw [located] at resolved
      cases found : table.lexicon.id? name with
      | none => simp [found] at resolved
      | some id =>
          simp only [found, Except.ok.injEq] at resolved
          subst resolved
          have named := (Lexicon.id?_eq_some_iff numbered.tokens).mp found
          apply RuleTable.Reads.token (List.idxOf?_eq_none_iff.mp located)
          rw [Lexicon.nameOf, named]

mutual

theorem reads_of_resolve (numbered : table.Numbered) (phrase : Phrase) (matcher : Matcher)
    (resolved : resolve table.names table.lexicon phrase = .ok matcher) :
    table.Reads phrase matcher := by
  cases phrase with
  | reference name => exact reads_of_reference numbered resolved
  | group inner =>
      exact .group (reads_of_resolve numbered inner matcher (by rwa [resolve] at resolved))
  | repeated bounds body =>
      rw [resolve] at resolved
      cases inside : resolve table.names table.lexicon body with
      | error name => rw [inside] at resolved; cases resolved
      | ok inner =>
          rw [inside] at resolved
          cases resolved
          exact .repeated (reads_of_resolve numbered body inner inside)
  | sequence parts =>
      rw [resolve] at resolved
      cases inside : resolveAll table.names table.lexicon parts with
      | error name => rw [inside] at resolved; cases resolved
      | ok matchers =>
          rw [inside] at resolved
          cases resolved
          exact .sequence (reads_of_resolveAll numbered parts matchers inside)
  | choice alternatives =>
      rw [resolve] at resolved
      cases inside : resolveAll table.names table.lexicon alternatives with
      | error name => rw [inside] at resolved; cases resolved
      | ok matchers =>
          rw [inside] at resolved
          cases resolved
          exact .choice (reads_of_resolveAll numbered alternatives matchers inside)

theorem reads_of_resolveAll (numbered : table.Numbered) (phrases : List Phrase)
    (matchers : List Matcher)
    (resolved : resolveAll table.names table.lexicon phrases = .ok matchers) :
    List.Forall₂ table.Reads phrases matchers := by
  cases phrases with
  | nil => cases resolved; exact .nil
  | cons phrase rest =>
      rw [resolveAll] at resolved
      cases first : resolve table.names table.lexicon phrase with
      | error name => rw [first] at resolved; cases resolved
      | ok matcher =>
          rw [first] at resolved
          cases others : resolveAll table.names table.lexicon rest with
          | error name => rw [others] at resolved; cases resolved
          | ok tail =>
              rw [others] at resolved
              cases resolved
              exact .cons (reads_of_resolve numbered phrase matcher first)
                (reads_of_resolveAll numbered rest tail others)

end

end Resolve

mutual

def Notation.Phrase.names : Phrase → List String
  | .reference name => [name]
  | .group inner => inner.names
  | .repeated _ body => body.names
  | .sequence parts => Phrase.allNames parts
  | .choice alternatives => Phrase.allNames alternatives

def Notation.Phrase.allNames : List Phrase → List String
  | [] => []
  | phrase :: rest => phrase.names ++ Phrase.allNames rest

end

section Unknown

variable {rules : List String} {lexicon : Lexicon}

def means (rules : List String) (lexicon : Lexicon) (name : String) : Bool :=
  rules.contains name || lexicon.names.contains name

theorem map_eq_error_iff {ε α β : Type} {result : Except ε α} {f : α → β} {problem : ε} :
    result.map f = .error problem ↔ result = .error problem := by
  cases result <;> simp [Except.map]

theorem map_eq_ok_iff {ε α β : Type} {result : Except ε α} {f : α → β} {value : β} :
    result.map f = .ok value ↔ ∃ before, result = .ok before ∧ f before = value := by
  cases result <;> simp [Except.map]

theorem resolve_reference_eq_error_iff {name unknown : String} :
    resolve rules lexicon (.reference name) = .error unknown ↔
      [name].find? (fun name => !means rules lexicon name) = some unknown := by
  rw [resolve, List.find?_singleton, means]
  cases located : rules.idxOf? name with
  | some index =>
      have member : name ∈ rules := by
        by_contra absent
        simp [List.idxOf?_eq_none_iff.mpr absent] at located
      simp [member]
  | none =>
      have absent := List.idxOf?_eq_none_iff.mp located
      cases found : lexicon.id? name with
      | some id => simp [Lexicon.mem_names_of_id? found]
      | none =>
          have undefined := Lexicon.id?_eq_none_iff.mp found
          simp [absent, undefined]

mutual

theorem resolve_eq_error_iff (phrase : Phrase) (unknown : String) :
    resolve rules lexicon phrase = .error unknown ↔
      phrase.names.find? (fun name => !means rules lexicon name) = some unknown := by
  cases phrase with
  | reference name => exact resolve_reference_eq_error_iff
  | group inner =>
      rw [resolve, Phrase.names]
      exact resolve_eq_error_iff inner unknown
  | repeated bounds body =>
      rw [resolve, Phrase.names, map_eq_error_iff]
      exact resolve_eq_error_iff body unknown
  | sequence parts =>
      rw [resolve, Phrase.names, map_eq_error_iff]
      exact resolveAll_eq_error_iff parts unknown
  | choice alternatives =>
      rw [resolve, Phrase.names, map_eq_error_iff]
      exact resolveAll_eq_error_iff alternatives unknown

theorem resolveAll_eq_error_iff (phrases : List Phrase) (unknown : String) :
    resolveAll rules lexicon phrases = .error unknown ↔
      (Phrase.allNames phrases).find? (fun name => !means rules lexicon name) = some unknown := by
  cases phrases with
  | nil => simp [resolveAll, Phrase.allNames]
  | cons phrase rest =>
      have head := resolve_eq_error_iff phrase
      rw [resolveAll, Phrase.allNames, List.find?_append, Option.or_eq_some_iff]
      cases first : resolve rules lexicon phrase with
      | error name =>
          rw [(head name).mp first]
          simp
      | ok matcher =>
          -- every name in front means something, so the first that does not is in the rest
          have fine : phrase.names.find? (fun name => !means rules lexicon name) = none := by
            by_contra some
            obtain ⟨name, found⟩ := Option.ne_none_iff_exists'.mp some
            rw [(head name).mpr found] at first
            cases first
          rw [fine]
          simpa [map_eq_error_iff] using resolveAll_eq_error_iff rest unknown

end

end Unknown

end TextGrammar
