import Mathlib.Data.List.Nodup
import TextGrammar.Matching.Journal
import TextGrammar.Proofs.Rules.Compilation

/-!
Rules in another order. A name that is looked up tells a rule wherever the rule stands, so a table
made from the same rules in another order is the first one under other numbers: each rule is read
in the same way, and each number in its matcher is replaced by the one that the same rule has now.
-/

namespace TextGrammar

open Notation (Phrase)

mutual

def Matcher.renumbered (number : RuleId → RuleId) : Matcher → Matcher
  | .token id => .token id
  | .rule id => .rule (number id)
  | .sequence parts => .sequence (Matcher.allRenumbered number parts)
  | .choice alternatives => .choice (Matcher.allRenumbered number alternatives)
  | .repeated bounds body => .repeated bounds (body.renumbered number)

def Matcher.allRenumbered (number : RuleId → RuleId) : List Matcher → List Matcher
  | [] => []
  | matcher :: rest => matcher.renumbered number :: Matcher.allRenumbered number rest

end

theorem Matcher.allRenumbered_eq_map (number : RuleId → RuleId) (matchers : List Matcher) :
    Matcher.allRenumbered number matchers = matchers.map (·.renumbered number) := by
  induction matchers with
  | nil => rfl
  | cons matcher rest ih => rw [allRenumbered, ih, List.map_cons]

def Rule.renumbered (number : RuleId → RuleId) (rule : Rule) : Rule :=
  { rule with matcher := rule.matcher.renumbered number }

section Resolve

variable {names others : List String} {lexicon : Lexicon} {number : RuleId → RuleId}

/-- Whether the names that are in one list of rules are in the other as well, under a number that
hangs on their number in the first. -/
def Renumbers (number : RuleId → RuleId) (names others : List String) : Prop :=
  ∀ name, (others.idxOf? name).map RuleId.ofIndex =
    ((names.idxOf? name).map RuleId.ofIndex).map number

theorem resolve_reference_renumbered (renumbers : Renumbers number names others) (name : String) :
    resolve others lexicon (.reference name) =
      (resolve names lexicon (.reference name)).map (·.renumbered number) := by
  have told := renumbers name
  rw [resolve, resolve]
  cases located : names.idxOf? name with
  | some index =>
      rw [located] at told
      obtain ⟨place, found, same⟩ := Option.map_eq_some_iff.mp told
      rw [found]
      exact congrArg (fun id => Except.ok (Matcher.rule id)) same
  | none =>
      rw [located] at told
      rw [Option.map_eq_none_iff.mp told]
      cases lexicon.id? name <;> rfl

mutual

theorem resolve_renumbered (renumbers : Renumbers number names others) (phrase : Phrase) :
    resolve others lexicon phrase =
      (resolve names lexicon phrase).map (·.renumbered number) := by
  cases phrase with
  | reference name => exact resolve_reference_renumbered renumbers name
  | group inner =>
      rw [resolve, resolve]
      exact resolve_renumbered renumbers inner
  | repeated bounds body =>
      rw [resolve, resolve, resolve_renumbered renumbers body]
      cases resolve names lexicon body <;> rfl
  | sequence parts =>
      rw [resolve, resolve, resolveAll_renumbered renumbers parts]
      cases resolveAll names lexicon parts <;> rfl
  | choice alternatives =>
      rw [resolve, resolve, resolveAll_renumbered renumbers alternatives]
      cases resolveAll names lexicon alternatives <;> rfl

theorem resolveAll_renumbered (renumbers : Renumbers number names others)
    (phrases : List Phrase) :
    resolveAll others lexicon phrases =
      (resolveAll names lexicon phrases).map (Matcher.allRenumbered number) := by
  cases phrases with
  | nil => rfl
  | cons phrase rest =>
      rw [resolveAll, resolveAll, resolve_renumbered renumbers phrase]
      cases resolve names lexicon phrase with
      | error name => rfl
      | ok matcher =>
          change (resolveAll others lexicon rest).map _ = _
          rw [resolveAll_renumbered renumbers rest]
          cases resolveAll names lexicon rest <;> rfl

end

theorem Rule.read_renumbered (renumbers : Renumbers number names others) (name body : String) :
    Rule.read others lexicon name body =
      (Rule.read names lexicon name body).map (·.renumbered number) := by
  rw [Rule.read, Rule.read]
  cases Phrase.ofBody body with
  | error error => rfl
  | ok phrase =>
      dsimp only
      rw [resolve_renumbered renumbers phrase]
      cases resolve names lexicon phrase <;> rfl

end Resolve

namespace RuleTable

def numberIn (table other : RuleTable) (id : RuleId) : RuleId :=
  ((table.rule? id).bind fun rule => other.ruleId? rule.name).getD id

structure Renumbered (number : RuleId → RuleId) (table other : RuleTable) : Prop where
  lexicon : other.lexicon = table.lexicon
  size : other.size = table.size
  ruleId? : Renumbers number table.names other.names
  rule? : ∀ id, other.rule? (number id) = (table.rule? id).map (·.renumbered number)

variable {lexicon : Lexicon} {rules reordered : List (String × String)} {table other : RuleTable}

theorem renumbers_of_perm (permuted : other.names.Perm table.names) (distinct : table.names.Nodup)
    (few : table.size ≤ UInt32.size) :
    Renumbers (table.numberIn other) table.names other.names := by
  intro name
  change other.ruleId? name = (table.ruleId? name).map (table.numberIn other)
  cases here : table.ruleId? name with
  | none =>
      rw [ruleId?_eq_none_iff, ← permuted.mem_iff] at here
      exact ruleId?_eq_none_iff.mpr here
  | some id =>
      obtain ⟨rule, declared, rfl⟩ :=
        Option.map_eq_some_iff.mp ((ruleId?_eq_some_iff_of_nodup distinct few).mp here)
      cases there : other.ruleId? rule.name with
      | none =>
          rw [ruleId?_eq_none_iff, permuted.mem_iff] at there
          rw [ruleId?_eq_none_iff.mpr there] at here
          cases here
      | some place => simp [numberIn, declared, there]

/-- A table that is made from the same rules in another order has the same rules under other
numbers. -/
theorem Made.renumbered (made : table.Made lexicon rules) (madeToo : other.Made lexicon reordered)
    (permuted : reordered.Perm rules) (few : rules.length ≤ UInt32.size) :
    table.Renumbered (table.numberIn other) other := by
  have distinct : table.names.Nodup := (firstRepeated?_eq_none_iff.mp made.distinct).1
  have distinctToo : other.names.Nodup := (firstRepeated?_eq_none_iff.mp madeToo.distinct).1
  have names : other.names.Perm table.names := by
    rw [made.names, madeToo.names]
    exact permuted.map Prod.fst
  have size : other.size = table.size := by
    simpa [RuleTable.names, RuleTable.size] using names.length_eq
  have count : table.size ≤ UInt32.size := by
    have counted := congrArg List.length made.names
    rw [RuleTable.names, List.length_map, List.length_map, Array.length_toList] at counted
    rwa [RuleTable.size, counted]
  have renumbers := renumbers_of_perm names distinct count
  refine ⟨madeToo.known.trans made.known.symm, size, renumbers, fun id => ?_⟩
  cases declared : table.rule? id with
  | none =>
      have beyond : table.rules.size ≤ id.index := Array.getElem?_eq_none_iff.mp declared
      have same : table.numberIn other id = id := by simp [numberIn, declared]
      rw [same]
      exact Array.getElem?_eq_none (Nat.le_trans (Nat.le_of_eq size) beyond)
  | some rule =>
      have told : table.ruleId? rule.name = some id := by
        rw [ruleId?_eq_some_iff_of_nodup distinct count, declared]
        rfl
      have found : other.ruleId? rule.name = some (table.numberIn other id) := by
        have both := renumbers rule.name
        change other.ruleId? rule.name = (table.ruleId? rule.name).map _ at both
        rw [both, told]
        rfl
      obtain ⟨known, there, same⟩ := Option.map_eq_some_iff.mp
        ((ruleId?_eq_some_iff_of_nodup distinctToo (size ▸ count)).mp found)
      -- no other body is declared under the name
      have member : rule ∈ table.rules.toList := by simpa using Array.mem_of_getElem? declared
      have memberToo : known ∈ other.rules.toList := by simpa using Array.mem_of_getElem? there
      have body : known.body = rule.body := by
        have source : (rule.name, rule.body) ∈ rules := by
          rw [← made.listed]
          exact List.mem_map.mpr ⟨rule, member, rfl⟩
        have sourceToo : (known.name, known.body) ∈ rules := by
          rw [← permuted.mem_iff, ← madeToo.listed]
          exact List.mem_map.mpr ⟨known, memberToo, rfl⟩
        rw [made.names] at distinct
        have pair := List.inj_on_of_nodup_map distinct sourceToo source same
        exact congrArg Prod.snd pair
      have read := madeToo.read known memberToo
      rw [same, body, Rule.read_renumbered renumbers, madeToo.known, ← made.known,
        made.read rule member] at read
      rw [there]
      exact congrArg some (Except.ok.inj read).symm

end RuleTable

theorem Rule.Wrong.of_mem_iff {names others : List String} {lexicon : Lexicon} {name body : String}
    {error : RuleError} (same : ∀ name, name ∈ others ↔ name ∈ names)
    (wrong : Rule.Wrong names lexicon name body error) :
    Rule.Wrong others lexicon name body error := by
  have means : means names lexicon = means others lexicon := by
    funext name
    simp [TextGrammar.means, same]
  cases wrong with
  | body unread => exact .body unread
  | unknownName read first => exact .unknownName read (means ▸ first)

/-- What can be wrong with a list of rules is wrong with them in any order, though what is reported
may be another thing. -/
theorem RuleTable.Wrong.of_perm {lexicon : Lexicon} {rules reordered : List (String × String)}
    {error : RuleError} (permuted : reordered.Perm rules) (wrong : Wrong lexicon rules error) :
    ∃ other, Wrong lexicon reordered other := by
  have names : (reordered.map Prod.fst).Perm (rules.map Prod.fst) := permuted.map Prod.fst
  cases success : ofRules lexicon reordered with
  | error other => exact ⟨other, ofRules_eq_error_iff.mp success⟩
  | ok table =>
      have made := made_of_ofRules success
      have distinct : (reordered.map Prod.fst).Nodup :=
        made.names ▸ (firstRepeated?_eq_none_iff.mp made.distinct).1
      cases wrong with
      | noRules none => exact absurd (none ▸ permuted).eq_nil made.nonempty
      | duplicateRule split first again =>
          rw [names.nodup_iff, split] at distinct
          exact absurd again fun earlier =>
            (List.nodup_append.mp distinct).2.2 _ earlier _ List.mem_cons_self rfl
      | @rule front back name body _ distinct split fine wrong =>
          have member : (name, body) ∈ reordered := permuted.mem_iff.mpr (by simp [split])
          rw [← made.listed] at member
          obtain ⟨rule, listed, same⟩ := List.mem_map.mp member
          have read := made.read rule listed
          cases same
          have failed := Rule.read_eq_error_iff.mpr
            (wrong.of_mem_iff fun name => names.mem_iff (a := name))
          rw [← made.known, ← made.names] at failed
          cases read.symm.trans failed

theorem RuleTable.exists_ofRules_iff_of_perm {lexicon : Lexicon}
    {rules reordered : List (String × String)} (permuted : reordered.Perm rules) :
    (∃ table, ofRules lexicon rules = .ok table) ↔
      ∃ table, ofRules lexicon reordered = .ok table := by
  have fine : ∀ {sources : List (String × String)},
      (∃ table, ofRules lexicon sources = .ok table) ↔ ¬∃ error, Wrong lexicon sources error := by
    intro sources
    cases made : ofRules lexicon sources with
    | ok table =>
        simp only [← ofRules_eq_error_iff, made, reduceCtorEq, exists_false, not_false_iff,
          iff_true]
        exact ⟨table, rfl⟩
    | error error =>
        simp only [reduceCtorEq, exists_false, false_iff, not_not]
        exact ⟨error, ofRules_eq_error_iff.mp made⟩
  rw [fine, fine, not_iff_not]
  exact ⟨fun ⟨_, wrong⟩ => wrong.of_perm permuted, fun ⟨_, wrong⟩ => wrong.of_perm permuted.symm⟩

end TextGrammar
