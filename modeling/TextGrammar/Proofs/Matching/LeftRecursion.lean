import Mathlib.Data.Finset.Prod
import Mathlib.Data.List.Chain
import Mathlib.Logic.Relation
import TextGrammar.Proofs.Matching.Adequacy
import TextGrammar.Proofs.Matching.Lockstep
import TextGrammar.Proofs.Matching.Record
import TextGrammar.Proofs.Matching.Restriction

/-!
Rules inside rules. While a rule is matched others come to be matched inside it, each from a
cursor of its own, and those inside them again. Where there is a verdict this comes to an end on
every way down, so no rule is met again at the cursor where it is being matched. There are no
more ways to begin a rule than there are rules and cursors; so a match that goes deeper than
that has met a rule again, and no other limits give it a verdict.
-/

namespace TextGrammar

open Notation (Bounds)
open Relation (ReflTransGen TransGen)

structure Entry where
  id : RuleId
  cursor : Nat
  deriving DecidableEq, Repr

/-- Whether a task that is begun at a cursor comes to match a rule, and not from within another
one. What is tried first must fail or match before what comes behind it is tried. -/
inductive Enters (table : RuleTable) (watch : Watch) (lexemes : Array Lexeme) :
    Task → Nat → Entry → Prop where
  | rule {id : RuleId} {cursor : Nat} :
      Enters table watch lexemes (.one (.rule id)) cursor ⟨id, cursor⟩
  | sequence {parts : List Matcher} {cursor : Nat} {entry : Entry}
      (inside : Enters table watch lexemes (.all parts) cursor entry) :
      Enters table watch lexemes (.one (.sequence parts)) cursor entry
  | allHead {part : Matcher} {rest : List Matcher} {cursor : Nat} {entry : Entry}
      (head : Enters table watch lexemes (.one part) cursor entry) :
      Enters table watch lexemes (.all (part :: rest)) cursor entry
  | allTail {part : Matcher} {rest : List Matcher} {cursor next : Nat} {forest : Forest}
      {entry : Entry}
      (head : Finds table watch lexemes (.one part) cursor (.matched next forest))
      (tail : Enters table watch lexemes (.all rest) next entry) :
      Enters table watch lexemes (.all (part :: rest)) cursor entry
  | choice {alternatives : List Matcher} {cursor : Nat} {entry : Entry}
      (inside : Enters table watch lexemes (.first alternatives) cursor entry) :
      Enters table watch lexemes (.one (.choice alternatives)) cursor entry
  | firstHead {alternative : Matcher} {rest : List Matcher} {cursor : Nat} {entry : Entry}
      (head : Enters table watch lexemes (.one alternative) cursor entry) :
      Enters table watch lexemes (.first (alternative :: rest)) cursor entry
  | firstTail {alternative : Matcher} {rest : List Matcher} {cursor : Nat} {entry : Entry}
      (head : Finds table watch lexemes (.one alternative) cursor .failed)
      (tail : Enters table watch lexemes (.first rest) cursor entry) :
      Enters table watch lexemes (.first (alternative :: rest)) cursor entry
  | repeated {bounds : Bounds} {body : Matcher} {cursor : Nat} {entry : Entry}
      (inside : Enters table watch lexemes (.rounds bounds body 0) cursor entry) :
      Enters table watch lexemes (.one (.repeated bounds body)) cursor entry
  | roundsHead {bounds : Bounds} {body : Matcher} {count cursor : Nat} {entry : Entry}
      (more : bounds.allowsMore count = true)
      (head : Enters table watch lexemes (.one body) cursor entry) :
      Enters table watch lexemes (.rounds bounds body count) cursor entry
  | roundsTail {bounds : Bounds} {body : Matcher} {count cursor next : Nat} {forest : Forest}
      {entry : Entry} (more : bounds.allowsMore count = true)
      (head : Finds table watch lexemes (.one body) cursor (.matched next forest))
      (moved : next ≠ cursor)
      (tail : Enters table watch lexemes (.rounds bounds body (count + 1)) next entry) :
      Enters table watch lexemes (.rounds bounds body count) cursor entry

def LeadsTo (table : RuleTable) (watch : Watch) (lexemes : Array Lexeme)
    (outer inner : Entry) : Prop :=
  ∃ rule, table.rule? outer.id = some rule ∧
    Enters table watch lexemes (.one rule.matcher) outer.cursor inner

/-- Whether matching a rule from the first lexeme on comes to match some rule again at the cursor
where it is still being matched. -/
def LeftRecursive (table : RuleTable) (watch : Watch) (lexemes : Array Lexeme) (id : RuleId) :
    Prop :=
  ∃ entry, ReflTransGen (LeadsTo table watch lexemes) ⟨id, 0⟩ entry ∧
    TransGen (LeadsTo table watch lexemes) entry entry

section Entries

variable {table : RuleTable} {watch : Watch} {lexemes : Array Lexeme} {task : Task}
  {cursor : Nat} {finding : Finding} {entry : Entry}

/-- Whatever a task with a finding comes to match, the ways down from there come to an end. -/
theorem Finds.acc (found : Finds table watch lexemes task cursor finding)
    (enters : Enters table watch lexemes task cursor entry) :
    Acc (Function.swap (LeadsTo table watch lexemes)) entry := by
  -- what was found in front tells from which cursor the rest is entered
  induction found generalizing entry with
  | token | tokenOther | allDone | firstNone => cases enters
  | rule declared _ ih =>
      cases enters
      apply Acc.intro
      rintro inner ⟨rule, known, inside⟩
      cases declared.symm.trans known
      exact ih inside
  | sequence _ ih => cases enters with | sequence inside => exact ih inside
  | choice _ ih => cases enters with | choice inside => exact ih inside
  | repeated _ ih => cases enters with | repeated inside => exact ih inside
  | allFail failed ih =>
      cases enters with
      | allHead head => exact ih head
      | allTail head _ => cases failed.unique head
  | allNext matched _ ihHead ihTail =>
      cases enters with
      | allHead head => exact ihHead head
      | allTail head tail =>
          cases matched.unique head
          exact ihTail tail
  | firstHit matched ih =>
      cases enters with
      | firstHead head => exact ih head
      | firstTail head _ => cases matched.unique head
  | firstNext _ _ ihHead ihTail =>
      cases enters with
      | firstHead head => exact ihHead head
      | firstTail _ tail => exact ihTail tail
  | roundsFull full =>
      cases enters with
      | roundsHead more _ | roundsTail more _ _ _ => simp [full] at more
  | roundsFail _ failed ih =>
      cases enters with
      | roundsHead _ head => exact ih head
      | roundsTail _ head _ _ => cases failed.unique head
  | roundsEmpty _ matched ih =>
      cases enters with
      | roundsHead _ head => exact ih head
      | roundsTail _ head moved _ =>
          cases matched.unique head
          exact absurd rfl moved
  | roundsNext _ matched _ _ ihHead ihTail =>
      cases enters with
      | roundsHead _ head => exact ihHead head
      | roundsTail _ head _ tail =>
          cases matched.unique head
          exact ihTail tail

theorem not_transGen_of_acc {α : Type} {above : α → α → Prop} {place : α}
    (acc : Acc (Function.swap above) place) : ¬TransGen above place place := by
  -- along a loop the place would be below itself
  have ends := acc.transGen
  clear acc
  intro loop
  induction ends with
  | intro place _ ih => exact ih place (Relation.transGen_swap.mpr loop) loop

theorem Finds.not_leftRecursive {id : RuleId}
    (found : Finds table watch lexemes (.one (.rule id)) 0 finding) :
    ¬LeftRecursive table watch lexemes id := by
  rintro ⟨entry, reached, loop⟩
  apply not_transGen_of_acc _ loop
  clear loop
  induction reached with
  | refl => exact found.acc .rule
  | tail _ step ih => exact ih.inv step

def Entry.Inside (table : RuleTable) (lexemes : Array Lexeme) (entry : Entry) : Prop :=
  entry.id.index < table.size ∧ entry.cursor ≤ lexemes.size

theorem RuleTable.index_lt_of_rule? {id : RuleId} {rule : Rule}
    (declared : table.rule? id = some rule) : id.index < table.size :=
  (Array.getElem?_eq_some_iff.mp declared).1

theorem Enters.inside (enters : Enters table watch lexemes task cursor entry)
    (within : task.Within table) (fits : cursor ≤ lexemes.size) : entry.Inside table lexemes := by
  -- what comes behind a match begins among the lexemes too
  have onward : ∀ {task next forest cursor}, cursor ≤ lexemes.size →
      Finds table watch lexemes task cursor (.matched next forest) → next ≤ lexemes.size := by
    intro task next forest cursor fits found
    have inside : next ≤ max cursor lexemes.size := found.faithful.inside
    omega
  induction enters with
  | rule =>
      obtain ⟨rule, declared⟩ := within
      exact ⟨RuleTable.index_lt_of_rule? declared, fits⟩
  | sequence _ ih | choice _ ih | repeated _ ih => exact ih within fits
  | allHead _ ih | firstHead _ ih => exact ih within.1 fits
  | allTail head _ ih => exact ih within.2 (onward fits head)
  | firstTail _ _ ih => exact ih within.2 fits
  | roundsHead _ _ ih => exact ih within fits
  | roundsTail _ head _ _ ih => exact ih within (onward fits head)

theorem LeadsTo.inside {outer inner : Entry} (closed : table.Closed)
    (leads : LeadsTo table watch lexemes outer inner) (fits : outer.cursor ≤ lexemes.size) :
    inner.Inside table lexemes := by
  obtain ⟨rule, declared, enters⟩ := leads
  exact enters.inside (closed outer.id rule declared) fits

/-- A way down that never meets a rule again at the same cursor is no longer than there are
rules and cursors. -/
theorem length_le_of_inside {way : List Entry} (distinct : way.Nodup)
    (inside : ∀ entry ∈ way, entry.Inside table lexemes) :
    way.length ≤ table.size * (lexemes.size + 1) := by
  have counted : way.toFinset.card ≤
      (Finset.range table.size ×ˢ Finset.range (lexemes.size + 1)).card := by
    apply Finset.card_le_card_of_injOn fun entry => (entry.id.index, entry.cursor)
    · intro entry member
      obtain ⟨declared, fits⟩ := inside entry (List.mem_toFinset.mp member)
      simp only [Finset.coe_product, Finset.coe_range, Set.mem_prod, Set.mem_Iio]
      omega
    · rintro ⟨⟨first⟩, one⟩ - ⟨⟨second⟩, other⟩ - same
      obtain ⟨number, rfl⟩ := Prod.mk.inj same
      cases UInt32.toNat_inj.mp number
      rfl
  rw [List.toFinset_card_of_nodup distinct] at counted
  simpa using counted

theorem inside_of_chain {way : List Entry} (closed : table.Closed)
    (chain : (entry :: way).IsChain (LeadsTo table watch lexemes))
    (fits : entry.cursor ≤ lexemes.size) : ∀ inner ∈ way, inner.Inside table lexemes := by
  induction way generalizing entry with
  | nil => exact fun _ member => nomatch member
  | cons next rest ih =>
      obtain ⟨leads, onward⟩ := List.isChain_cons_cons.mp chain
      have inside := leads.inside closed fits
      intro inner member
      rcases List.mem_cons.mp member with same | later
      · exact same ▸ inside
      · exact ih onward inside.2 inner later

theorem exists_transGen_of_long {way : List Entry}
    (chain : way.IsChain (LeadsTo table watch lexemes))
    (inside : ∀ entry ∈ way, entry.Inside table lexemes)
    (long : table.size * (lexemes.size + 1) < way.length) :
    ∃ entry ∈ way, TransGen (LeadsTo table watch lexemes) entry entry := by
  by_contra none
  -- each entry comes below all in front of it, so one that is there twice is below itself
  have apart : way.Pairwise (TransGen (LeadsTo table watch lexemes)) :=
    (chain.imp fun _ _ => TransGen.single).pairwise
  have distinct : way.Nodup := by
    apply apart.imp_of_mem
    intro outer inner member _ loop same
    subst inner
    exact none ⟨outer, member, loop⟩
  have bound := length_le_of_inside distinct inside
  omega

end Entries

namespace Recognizer

abbrev Enters (r : Recognizer) : Task → Nat → Entry → Prop :=
  TextGrammar.Enters r.table r.watch r.lexemes

abbrev LeadsTo (r : Recognizer) : Entry → Entry → Prop :=
  TextGrammar.LeadsTo r.table r.watch r.lexemes

/-- Whether an outcome that is too deep tells of a way down from a task with as many rules inside
one another as are left to the limit, and one more. -/
def Deep (r : Recognizer) (task : Task) (before : Progress) (outcome : Outcome) : Prop :=
  outcome.verdict = .stopped .depthExceeded → ∃ entry way,
    r.Enters task before.cursor entry ∧ (entry :: way).IsChain r.LeadsTo ∧
      r.limits.depth.toNat ≤ before.depth + way.length

variable {r : Recognizer} {run : Matcher → Progress → Outcome} {task other : Task}
  {before after : Progress} {outcome : Outcome} {bounds : Bounds} {body : Matcher}

theorem Deep.onward (deep : r.Deep task after outcome) (depth : after.depth = before.depth)
    (enters : ∀ entry, r.Enters task after.cursor entry → r.Enters other before.cursor entry) :
    r.Deep other before outcome := by
  intro exceeded
  obtain ⟨entry, way, inside, chain, long⟩ := deep exceeded
  exact ⟨entry, way, enters entry inside, chain, by omega⟩

theorem Deep.undone {place : Bookmark} (deep : r.Deep task before outcome) :
    r.Deep task before (outcome.undone place) := by
  obtain ⟨verdict, after⟩ := outcome
  cases verdict with
  | matched | failed | stopped => exact deep

theorem Deep.otherwise (otherwise : outcome.verdict ≠ .stopped .depthExceeded) :
    r.Deep task before outcome :=
  fun exceeded => absurd exceeded otherwise

theorem runRule_deep (conservative : Conservative run)
    (deep : ∀ matcher before, r.Deep (.one matcher) before (run matcher before)) (id : RuleId)
    (before : Progress) : r.Deep (.one (.rule id)) before (r.runRule run id before) := by
  unfold runRule
  split
  · next full => exact fun _ => ⟨⟨id, before.cursor⟩, [], .rule, .singleton _, full⟩
  · split
    · exact .otherwise (by simp)
    · next rule declared =>
        have kept := runBody_atomic (r := r) conservative id rule.matcher (before.enter id)
        rcases ran : r.runBody run id rule.matcher (before.enter id) with ⟨verdict, after⟩
        rw [ran] at kept
        cases verdict with
        | matched =>
            simp only [leaveRule_of_depth kept.1]
            exact .otherwise Verdict.noConfusion
        | failed =>
            simp only [leaveRule_of_depth kept.1]
            exact .otherwise Verdict.noConfusion
        | stopped why =>
            intro exceeded
            cases exceeded
            obtain ⟨trail, same, -⟩ :=
              runBody_like (r := r) conservative id rule.matcher (before.enter id)
            rw [ran] at same
            obtain ⟨entry, way, inside, chain, long⟩ := deep rule.matcher _ same.symm
            -- the rule itself comes in front of what is matched inside it
            refine ⟨⟨id, before.cursor⟩, entry :: way, .rule, ?_, ?_⟩
            · exact List.isChain_cons_cons.mpr ⟨⟨rule, declared, inside⟩, chain⟩
            · simp only [Progress.enter_depth, List.length_cons] at long ⊢
              omega

theorem runParts_deep (conservative : Conservative run) (sound : r.Sound run)
    (deep : ∀ matcher before, r.Deep (.one matcher) before (run matcher before))
    (parts : List Matcher) (before : Progress) :
    r.Deep (.all parts) before (runParts run parts before) := by
  induction parts generalizing before with
  | nil => exact .otherwise Verdict.noConfusion
  | cons part rest ih =>
      have first := conservative part before
      have backed := sound part before
      have inside := deep part before
      rw [runParts]
      rcases ran : run part before with ⟨verdict, after⟩
      rw [ran] at first backed inside
      cases verdict with
      | matched =>
          obtain ⟨forest, found, -⟩ := backed
          exact (ih after).onward first.1 fun entry enters => .allTail found enters
      | failed => exact .otherwise Verdict.noConfusion
      | stopped why => exact inside.onward rfl fun entry enters => .allHead enters

theorem runChoice_deep (conservative : Conservative run) (sound : r.Sound run)
    (deep : ∀ matcher before, r.Deep (.one matcher) before (run matcher before))
    (alternatives : List Matcher) (place : Bookmark) (before : Progress)
    (here : place.cursor = before.cursor) :
    r.Deep (.first alternatives) before (runChoice run place alternatives before) := by
  induction alternatives generalizing before with
  | nil => exact .otherwise Verdict.noConfusion
  | cons alternative rest ih =>
      have first := conservative alternative before
      have backed := sound alternative before
      have inside := deep alternative before
      rw [runChoice]
      rcases ran : run alternative before with ⟨verdict, after⟩
      rw [ran] at first backed inside
      cases verdict with
      | matched => exact .otherwise Verdict.noConfusion
      | failed =>
          -- the next alternative begins where this one did
          have again := ih (after.backtrack place) (by simp)
          apply again.onward (by simpa using first.1)
          intro entry enters
          rw [Progress.backtrack_cursor, here] at enters
          exact .firstTail backed enters
      | stopped why => exact inside.onward rfl fun entry enters => .firstHead enters

theorem ended_decided (count : Nat) (why : Stop) :
    (ended bounds count before).verdict ≠ .stopped why := by
  unfold ended
  split <;> exact Verdict.noConfusion

theorem repeatFrom_deep (conservative : Conservative run) (sound : r.Sound run)
    (deep : ∀ matcher before, r.Deep (.one matcher) before (run matcher before))
    (rounds count : Nat) (before : Progress) :
    r.Deep (.rounds bounds body count) before (repeatFrom run bounds body rounds count before) := by
  induction rounds generalizing count before with
  | zero => exact .otherwise (by simp [repeatFrom])
  | succ rounds ih =>
      have first := conservative body before
      have backed := sound body before
      have inside := deep body before
      rw [repeatFrom]
      by_cases more : bounds.allowsMore count = true
      · rw [if_pos more]
        rcases ran : run body before with ⟨verdict, after⟩
        rw [ran] at first backed inside
        cases verdict with
        | stopped why => exact inside.onward rfl fun entry enters => .roundsHead more enters
        | failed => exact .otherwise (ended_decided count _)
        | matched =>
            obtain ⟨forest, found, -⟩ := backed
            dsimp only
            split
            · exact .otherwise (by simp)
            · split
              · exact .otherwise (ended_decided _ _)
              · next moved =>
                  exact (ih (count + 1) after).onward first.1 fun entry enters =>
                    .roundsTail more found moved enters
      · rw [if_neg more]
        exact .otherwise (ended_decided count _)

theorem runMatcher_deep (conservative : Conservative run) (sound : r.Sound run)
    (deep : ∀ matcher before, r.Deep (.one matcher) before (run matcher before))
    (matcher : Matcher) (before : Progress) :
    r.Deep (.one matcher) before (r.runMatcher run matcher before) := by
  cases matcher with
  | token id =>
      unfold runMatcher testToken
      dsimp only
      split
      · exact .otherwise (by simp)
      · split
        · split <;> exact .otherwise (by simp)
        · exact .otherwise (by simp)
  | rule id => exact runRule_deep conservative deep id before
  | sequence parts =>
      apply Deep.undone
      exact (runParts_deep conservative sound deep parts before).onward rfl fun _ => .sequence
  | choice alternatives =>
      exact (runChoice_deep conservative sound deep alternatives before.bookmark before
        rfl).onward rfl fun _ => .choice
  | repeated bounds body =>
      apply Deep.undone
      exact (repeatFrom_deep conservative sound deep (before.fuel + 1) 0 before).onward rfl
        fun _ => .repeated

theorem tryWithin_deep (nesting : Nat) (matcher : Matcher) (before : Progress) :
    r.Deep (.one matcher) before (r.tryWithin nesting matcher before) := by
  induction nesting generalizing matcher before with
  | zero => exact .otherwise (by simp [tryWithin])
  | succ nesting ih =>
      unfold tryWithin step
      split
      · exact .otherwise (by simp)
      · exact (runMatcher_deep (tryWithin_conservative nesting) (tryWithin_sound nesting) ih matcher
          _).onward rfl fun _ enters => enters

section Limits

variable {wider : Limits} {id : RuleId} {journal : Option (Array Step)}

theorem lockstep_eq : Lockstep (Eq : Progress → Progress → Prop) where
  fuel _ _ same := by rw [same]
  spend _ _ _ same := by rw [same]
  still _ _ _ _ same onward := by rw [same, onward]
  back _ _ _ _ same onward _ _ := by rw [same, onward]

theorem companions_deeper (room : r.limits.depth.toNat ≤ wider.depth.toNat) :
    r.Companions { r with limits := wider } Eq (· = .depthExceeded) where
  lockstep := lockstep_eq
  table := rfl
  watch := rfl
  room := room
  full := .inr rfl
  depth _ _ same := by rw [same]
  opens _ _ _ same := by rw [same]
  closes := by
    rintro id one _ after _ events others rfl rfl recorded recordedToo
    cases Trail.record_inj (recorded.symm.trans recordedToo)
    rfl
  enter _ _ _ _ _ same := by rw [same]
  leave _ _ _ _ _ _ _ same := by rw [same]
  token := by
    rintro id name named one _ rfl
    exact .inr ⟨rfl, rfl⟩

theorem run_decided_finds (r : Recognizer) (id : RuleId) (journal : Option (Array Step))
    (decided : ∀ why, (r.run id journal).verdict ≠ .stopped why) :
    ∃ finding, r.Finds (.one (.rule id)) 0 finding := by
  have backed := runRule_grounded (tryWithin_conservative (r := r) r.limits.fuel.toNat)
    (tryWithin_sound (r := r) r.limits.fuel.toNat) id (.start r.limits journal)
  change r.Grounded _ _ (r.run id journal) at backed
  rcases ran : r.run id journal with ⟨verdict, after⟩
  rw [ran] at backed decided
  cases verdict with
  | matched =>
      obtain ⟨forest, found, -⟩ := backed
      exact ⟨_, found⟩
  | failed => exact ⟨_, backed⟩
  | stopped why => exact absurd rfl (decided why)

theorem run_deeper {rule : Rule} {depth : UInt32} (declared : r.table.rule? id = some rule)
    (closed : r.table.Closed) (room : r.limits.depth.toNat ≤ depth.toNat) :
    (r.run id journal).verdict = .stopped .depthExceeded ∨
      r.run id journal = { r with limits := ⟨r.limits.fuel, depth⟩ }.run id journal := by
  have companions : r.Companions { r with limits := ⟨r.limits.fuel, depth⟩ } Eq
      (· = .depthExceeded) := companions_deeper room
  have alike := companions.run_alike closed declared rfl journal journal rfl
  rcases Outcome.Alike.eq alike with ⟨why, stopped, rfl⟩ | same
  · exact .inl stopped
  · exact .inr same

theorem run_exceeded_way (exceeded : (r.run id journal).verdict = .stopped .depthExceeded) :
    ∃ way, ((⟨id, 0⟩ : Entry) :: way).IsChain r.LeadsTo ∧
      r.limits.depth.toNat ≤ way.length := by
  have deep := runRule_deep (tryWithin_conservative (r := r) r.limits.fuel.toNat)
    (tryWithin_deep (r := r) r.limits.fuel.toNat) id (.start r.limits journal)
  obtain ⟨entry, way, enters, chain, long⟩ := deep exceeded
  cases enters
  exact ⟨way, chain, by simpa [Progress.start] using long⟩

/-- A run that is too deep, with as much depth allowed as there are rules and cursors to begin
them at, has met a rule again. -/
theorem leftRecursive_of_exceeded (closed : r.table.Closed) (rules : 0 < r.table.size)
    (room : r.table.size * (r.lexemes.size + 1) ≤ r.limits.depth.toNat)
    (exceeded : (r.run id journal).verdict = .stopped .depthExceeded) :
    LeftRecursive r.table r.watch r.lexemes id := by
  obtain ⟨way, chain, long⟩ := run_exceeded_way exceeded
  have places : 0 < r.table.size * (r.lexemes.size + 1) :=
    Nat.mul_pos rules (Nat.succ_pos r.lexemes.size)
  have within := inside_of_chain closed chain (Nat.zero_le _)
  have first : (⟨id, 0⟩ : Entry).Inside r.table r.lexemes := by
    -- there is room for more than the first rule, so another one came below it
    cases way with
    | nil =>
        simp only [List.length_nil] at long
        omega
    | cons next rest =>
        obtain ⟨⟨rule, declared, -⟩, -⟩ := List.isChain_cons_cons.mp chain
        exact ⟨RuleTable.index_lt_of_rule? declared, Nat.zero_le _⟩
  have inside : ∀ entry ∈ (⟨id, 0⟩ : Entry) :: way, entry.Inside r.table r.lexemes :=
    List.forall_mem_cons.mpr ⟨first, within⟩
  obtain ⟨entry, member, loop⟩ := exists_transGen_of_long chain inside
    (by simp only [List.length_cons]; omega)
  refine ⟨entry, ?_, loop⟩
  rcases List.mem_cons.mp member with same | later
  · rw [same]
  · have reached : ((⟨id, 0⟩ : Entry) :: way).Pairwise (TransGen r.LeadsTo) :=
      (chain.imp fun _ _ => TransGen.single).pairwise
    exact ((List.pairwise_cons.mp reached).1 entry later).to_reflTransGen

/-- With the rules of a table made from names and bodies, as much depth as there are rules times
cursors is enough: a run that comes to a verdict under some limits comes to the very same with
the same fuel and that depth. Where a run is too deep for that much, some rule was met again at
the cursor where it was being matched, and no limits whatever give a verdict. -/
theorem run_depth_suffices {lexicon : Lexicon} {rules : List (String × String)}
    {table : RuleTable} (made : RuleTable.ofRules lexicon rules = .ok table) (watch : Watch)
    (lexemes : Array Lexeme) (id : RuleId) (journal : Option (Array Step)) (fuel depth : UInt32)
    (room : table.size * (lexemes.size + 1) ≤ depth.toNat) :
    let under := fun limits => (⟨table, watch, limits, lexemes⟩ : Recognizer)
    (∀ other, (∀ why, ((under ⟨fuel, other⟩).run id journal).verdict ≠ .stopped why) →
      (under ⟨fuel, depth⟩).run id journal = (under ⟨fuel, other⟩).run id journal) ∧
    (((under ⟨fuel, depth⟩).run id journal).verdict = .stopped .depthExceeded →
      LeftRecursive table watch lexemes id ∧
        ∀ limits steps, ∃ why, ((under limits).run id steps).verdict = .stopped why) := by
  intro under
  have closed := RuleTable.ofRules_closed made
  have loops : ((under ⟨fuel, depth⟩).run id journal).verdict = .stopped .depthExceeded →
      LeftRecursive table watch lexemes id :=
    leftRecursive_of_exceeded closed (RuleTable.made_of_ofRules made).size_pos room
  constructor
  · intro other decided
    obtain ⟨finding, found⟩ := run_decided_finds (under ⟨fuel, other⟩) id journal decided
    obtain ⟨rule, declared⟩ : ∃ rule, table.rule? id = some rule := by
      cases found with
      | rule declared _ => exact ⟨_, declared⟩
    -- of the two runs the one that may go less deep might be the only one to be too deep
    rcases Nat.le_total other.toNat depth.toNat with deeper | shallower
    · rcases run_deeper (r := under ⟨fuel, other⟩) declared closed deeper with exceeded | same
      · exact absurd exceeded (decided _)
      · exact same.symm
    · rcases run_deeper (r := under ⟨fuel, depth⟩) declared closed shallower with exceeded | same
      · exact absurd (loops exceeded) found.not_leftRecursive
      · exact same
  · intro exceeded
    refine ⟨loops exceeded, fun limits steps => ?_⟩
    by_contra none
    obtain ⟨finding, found⟩ := run_decided_finds (under limits) id steps fun why stopped =>
      none ⟨why, stopped⟩
    exact found.not_leftRecursive (loops exceeded)

end Limits

def sums : RuleTable where
  lexicon := ⟨[⟨"A", .literally ['a']⟩], by decide⟩
  rules := #[
    ⟨"sum", "sum A | A",
      .choice [.sequence [.reference "sum", .reference "A"], .reference "A"],
      .choice [.sequence [.rule ⟨0⟩, .token ⟨0⟩], .token ⟨0⟩]⟩]

/-- Two lists come to the same with eight rules inside one another allowed as with two. A sum has
met itself again where there are more than two, and there is no depth that is enough. -/
theorem run_depth_suffices_lists :
    let pairs : Limits → Recognizer :=
      fun limits => ⟨lists, .all lists, limits, lexemesOf [⟨1⟩, ⟨0⟩, ⟨1⟩]⟩
    let sum : Limits → Recognizer := fun limits => ⟨sums, .none, limits, lexemesOf [⟨0⟩]⟩
    (pairs ⟨11, 8⟩).run ⟨0⟩ none = (pairs ⟨11, 2⟩).run ⟨0⟩ none ∧
      LeftRecursive sums .none (lexemesOf [⟨0⟩]) ⟨0⟩ ∧
      ∀ limits steps, ∃ why, ((sum limits).run ⟨0⟩ steps).verdict = .stopped why := by
  intro pairs sum
  have made : RuleTable.ofRules lists.lexicon [("pair", "list A list"), ("list", "B+")] =
      .ok lists := by cbv
  have madeToo : RuleTable.ofRules sums.lexicon [("sum", "sum A | A")] = .ok sums := by cbv
  have matched : ((pairs ⟨11, 2⟩).run ⟨0⟩ none).verdict = .matched := by decide +kernel
  have exceeded : ((sum ⟨100, 2⟩).run ⟨0⟩ none).verdict = .stopped .depthExceeded := by
    decide +kernel
  constructor
  · apply (run_depth_suffices made (.all lists) _ ⟨0⟩ none 11 8 (by decide)).1 2
    intro why stopped
    cases matched.symm.trans stopped
  · exact (run_depth_suffices madeToo .none _ ⟨0⟩ none 100 2 (by decide)).2 exceeded

end Recognizer

end TextGrammar
