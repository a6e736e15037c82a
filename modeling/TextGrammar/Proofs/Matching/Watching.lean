import Mathlib.Order.MinMax
import TextGrammar.Proofs.Matching.Record

/-!
Watching rules and tokens one after the other. Flags grow as far as the furthest one that is set,
and what they have been filled up with is cleared. So a watch that has grown is told by what was
watched, and neither the order nor how often something was watched shows in it.
-/

namespace TextGrammar

section Flags

variable (flags : Array Bool)

theorem size_setFlag (index : Nat) : (setFlag flags index).size = max flags.size (index + 1) := by
  unfold setFlag
  split
  · next inside =>
      rw [Array.size_setIfInBounds]
      omega
  · next outside =>
      simp only [Array.size_push, Array.size_append, Array.size_replicate]
      omega

theorem getD_setFlag (index position : Nat) :
    ((setFlag flags index)[position]?).getD false =
      (decide (index = position) || (flags[position]?).getD false) := by
  unfold setFlag
  split
  · next inside =>
      rw [Array.getElem?_setIfInBounds]
      by_cases same : index = position
      · simp [same, same ▸ inside]
      · simp [same]
  · next outside =>
      have filled : (flags ++ Array.replicate (index - flags.size) false).size = index := by
        simp only [Array.size_append, Array.size_replicate]
        omega
      rw [Array.getElem?_push, filled]
      by_cases same : position = index
      · simp [same]
      · -- what was filled up with is cleared, as what lies beyond is
        rw [if_neg same, decide_eq_false (Ne.symm same), Bool.false_or, Array.getElem?_append]
        split
        · rfl
        · next beyond =>
            rw [Array.getElem?_eq_none (Nat.not_lt.mp beyond), Array.getElem?_replicate]
            split <;> rfl

theorem lt_size_foldl_setFlag (indices : List Nat) (position : Nat) :
    position < (indices.foldl setFlag flags).size ↔
      position < flags.size ∨ ∃ index ∈ indices, position ≤ index := by
  induction indices generalizing flags with
  | nil => simp
  | cons index rest ih =>
      rw [List.foldl_cons, ih, size_setFlag, lt_max_iff, Nat.lt_succ_iff, or_assoc]
      simp

theorem getD_foldl_setFlag (indices : List Nat) (position : Nat) :
    ((indices.foldl setFlag flags)[position]?).getD false =
      (decide (position ∈ indices) || (flags[position]?).getD false) := by
  induction indices generalizing flags with
  | nil => simp
  | cons index rest ih =>
      rw [List.foldl_cons, ih, getD_setFlag]
      by_cases same : index = position
      · simp [same]
      · simp [same, Ne.symm same]

theorem flags_ext {left right : Array Bool} (sizes : left.size = right.size)
    (told : ∀ position : Nat, (left[position]?).getD false = (right[position]?).getD false) :
    left = right := by
  apply Array.ext sizes
  intro position inside there
  have same := told position
  rwa [Array.getElem?_eq_getElem inside, Array.getElem?_eq_getElem there] at same

theorem foldl_setFlag_congr {indices others : List Nat}
    (same : ∀ index, index ∈ indices ↔ index ∈ others) :
    indices.foldl setFlag flags = others.foldl setFlag flags := by
  apply flags_ext
  · apply eq_of_forall_lt_iff
    intro position
    simp only [lt_size_foldl_setFlag, same]
  · intro position
    simp only [getD_foldl_setFlag, same]

end Flags

namespace Subject

def ruleIndex? : Subject → Option Nat
  | .rule id => some id.index
  | .token _ => none

def tokenIndex? : Subject → Option Nat
  | .rule _ => none
  | .token id => some id.index

variable {subjects : List Subject}

theorem mem_ruleIndices_iff {index : Nat} :
    index ∈ subjects.filterMap ruleIndex? ↔ ∃ id, .rule id ∈ subjects ∧ id.index = index := by
  rw [List.mem_filterMap]
  constructor
  · rintro ⟨subject, member, told⟩
    cases subject with
    | rule id => exact ⟨id, member, Option.some.inj told⟩
    | token id => cases told
  · rintro ⟨id, member, same⟩
    exact ⟨.rule id, member, congrArg some same⟩

theorem mem_tokenIndices_iff {index : Nat} :
    index ∈ subjects.filterMap tokenIndex? ↔ ∃ id, .token id ∈ subjects ∧ id.index = index := by
  rw [List.mem_filterMap]
  constructor
  · rintro ⟨subject, member, told⟩
    cases subject with
    | rule id => cases told
    | token id => exact ⟨id, member, Option.some.inj told⟩
  · rintro ⟨id, member, same⟩
    exact ⟨.token id, member, congrArg some same⟩

end Subject

namespace Watch

def add (watch : Watch) : Subject → Watch
  | .rule id => watch.addRule id
  | .token id => watch.addToken id

def addAll (watch : Watch) (subjects : List Subject) : Watch := subjects.foldl add watch

variable (watch : Watch) (subjects : List Subject)

theorem flags_addAll (flags : Watch → Array Bool) (place? : Subject → Option Nat)
    (adds : ∀ watch subject, flags (watch.add subject) =
      match place? subject with
      | some index => setFlag (flags watch) index
      | .none => flags watch) :
    flags (watch.addAll subjects) = (subjects.filterMap place?).foldl setFlag (flags watch) := by
  induction subjects generalizing watch with
  | nil => rfl
  | cons subject rest ih =>
      have later : flags (watch.addAll (subject :: rest)) =
          (rest.filterMap place?).foldl setFlag (flags (watch.add subject)) :=
        ih (watch.add subject)
      rw [later, adds, List.filterMap_cons]
      cases place? subject <;> rfl

theorem rules_addAll : (watch.addAll subjects).rules =
    (subjects.filterMap Subject.ruleIndex?).foldl setFlag watch.rules := by
  apply flags_addAll watch subjects Watch.rules
  intro watch subject
  cases subject <;> rfl

theorem tokens_addAll : (watch.addAll subjects).tokens =
    (subjects.filterMap Subject.tokenIndex?).foldl setFlag watch.tokens := by
  apply flags_addAll watch subjects Watch.tokens
  intro watch subject
  cases subject <;> rfl

theorem watches_addAll (subject : Subject) :
    (watch.addAll subjects).watches subject = true ↔
      watch.watches subject = true ∨ subject ∈ subjects := by
  cases subject with
  | rule id =>
      have told : id.index ∈ subjects.filterMap Subject.ruleIndex? ↔ .rule id ∈ subjects := by
        rw [Subject.mem_ruleIndices_iff]
        simp [RuleId.index_inj]
      simp only [watches, watchesRule, rules_addAll, getD_foldl_setFlag, Bool.or_eq_true,
        decide_eq_true_eq, told]
      exact or_comm
  | token id =>
      have told : id.index ∈ subjects.filterMap Subject.tokenIndex? ↔ .token id ∈ subjects := by
        rw [Subject.mem_tokenIndices_iff]
        simp [TokenId.index_inj]
      simp only [watches, watchesToken, tokens_addAll, getD_foldl_setFlag, Bool.or_eq_true,
        decide_eq_true_eq, told]
      exact or_comm

variable {watch subjects} {others : List Subject}

theorem rules_addAll_congr (same : ∀ id, .rule id ∈ subjects ↔ .rule id ∈ others) :
    (watch.addAll subjects).rules = (watch.addAll others).rules := by
  rw [rules_addAll, rules_addAll]
  apply foldl_setFlag_congr
  simp only [Subject.mem_ruleIndices_iff, same, implies_true]

theorem tokens_addAll_congr (same : ∀ id, .token id ∈ subjects ↔ .token id ∈ others) :
    (watch.addAll subjects).tokens = (watch.addAll others).tokens := by
  rw [tokens_addAll, tokens_addAll]
  apply foldl_setFlag_congr
  simp only [Subject.mem_tokenIndices_iff, same, implies_true]

/-- A watch that has grown watches what it did before and what was added to it. Its flags of rules
are told by which rules were added and those of tokens by which tokens, so that it is the same in
whatever order they were added and however often. -/
theorem addAll_settled (watch : Watch) (subjects : List Subject) :
    (∀ subject, (watch.addAll subjects).watches subject = true ↔
      watch.watches subject = true ∨ subject ∈ subjects) ∧
    ∀ others,
      ((∀ id, .rule id ∈ subjects ↔ .rule id ∈ others) →
        (watch.addAll subjects).rules = (watch.addAll others).rules) ∧
      ((∀ id, .token id ∈ subjects ↔ .token id ∈ others) →
        (watch.addAll subjects).tokens = (watch.addAll others).tokens) ∧
      ((∀ subject, subject ∈ subjects ↔ subject ∈ others) →
        watch.addAll subjects = watch.addAll others) := by
  refine ⟨watches_addAll watch subjects, fun others => ?_⟩
  refine ⟨rules_addAll_congr, tokens_addAll_congr, fun same => ?_⟩
  have rules : (watch.addAll subjects).rules = (watch.addAll others).rules :=
    rules_addAll_congr fun id => same (.rule id)
  have tokens : (watch.addAll subjects).tokens = (watch.addAll others).tokens :=
    tokens_addAll_congr fun id => same (.token id)
  rw [Watch.mk.injEq]
  exact ⟨rules, tokens⟩

theorem addAll_settled_reordered :
    (∀ subject, subject ∈ [Subject.rule ⟨2⟩, .token ⟨1⟩, .rule ⟨0⟩] ↔
      subject ∈ [Subject.token ⟨1⟩, .rule ⟨0⟩, .rule ⟨2⟩, .rule ⟨0⟩]) ∧
    Watch.none.addAll [.rule ⟨2⟩, .token ⟨1⟩, .rule ⟨0⟩] =
      Watch.none.addAll [.token ⟨1⟩, .rule ⟨0⟩, .rule ⟨2⟩, .rule ⟨0⟩] ∧
    Watch.none.addAll [.rule ⟨2⟩, .token ⟨1⟩, .rule ⟨0⟩] =
      ⟨#[true, false, true], #[false, true]⟩ := by
  have same : ∀ subject, subject ∈ [Subject.rule ⟨2⟩, .token ⟨1⟩, .rule ⟨0⟩] ↔
      subject ∈ [Subject.token ⟨1⟩, .rule ⟨0⟩, .rule ⟨2⟩, .rule ⟨0⟩] := by
    intro subject
    simp only [List.mem_cons, List.not_mem_nil, or_false]
    grind
  have settled := addAll_settled .none [.rule ⟨2⟩, .token ⟨1⟩, .rule ⟨0⟩]
  exact ⟨same, (settled.2 _).2.2 same, by decide⟩

end Watch

end TextGrammar
