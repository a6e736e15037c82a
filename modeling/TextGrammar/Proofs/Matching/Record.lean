import TextGrammar.Proofs.Matching.Soundness

/-!
The trail of an accepted run as a record of it. Rules are closed, ordered by where they
begin and nested in one another, and the tokens are the watched ones among the lexemes
that were taken, each once.
-/

namespace TextGrammar

open Notation (Bounds)

def Watch.watches (watch : Watch) : Subject → Bool
  | .rule id => watch.watchesRule id
  | .token id => watch.watchesToken id

def Watch.tokenEvent? (watch : Watch) (lexemes : Array Lexeme) (index : Nat) : Option Event :=
  match lexemes[index]? with
  | some lexeme => if watch.watchesToken lexeme.id then some (.token lexeme.id index) else .none
  | .none => .none

/-- Whether a forest is what is watched of a match from one position up to another. -/
structure Forest.Faithful (watch : Watch) (lexemes : Array Lexeme) (forest : Forest)
    (start stop : Nat) : Prop where
  spans : forest.Spans start stop
  inside : stop ≤ max start lexemes.size
  watched : ∀ event ∈ forest.events, watch.watches event.subject = true
  tokens : forest.events.filter (·.tokenId?.isSome) =
    (List.range' start (stop - start)).filterMap (watch.tokenEvent? lexemes)

namespace Forest

variable {watch : Watch} {lexemes : Array Lexeme} {start middle stop : Nat}

theorem Faithful.nil : Faithful watch lexemes .nil start start where
  spans := Nat.le_refl start
  inside := Nat.le_max_left start lexemes.size
  watched _ member := by cases member
  tokens := by simp [events]

theorem Faithful.append {left right : Forest} (here : left.Faithful watch lexemes start middle)
    (there : right.Faithful watch lexemes middle stop) :
    (left.append right).Faithful watch lexemes start stop where
  spans := here.spans.append there.spans
  inside := by
    have := here.inside
    have := there.inside
    omega
  watched event member := by
    rw [events_append] at member
    rcases List.mem_append.mp member with front | back
    · exact here.watched event front
    · exact there.watched event back
  tokens := by
    have first := here.spans.le
    have second := there.spans.le
    have split : List.range' start (stop - start) =
        List.range' start (middle - start) ++ List.range' middle (stop - middle) := by
      rw [show stop - start = (middle - start) + (stop - middle) by omega, ← List.range'_append_1]
      congr 2
      omega
    rw [events_append, List.filter_append, here.tokens, there.tokens, split,
      List.filterMap_append]

theorem Faithful.token {lexeme : Lexeme} (here : lexemes[start]? = some lexeme) :
    (watch.tokenForest lexeme.id start).Faithful watch lexemes start (start + 1) := by
  obtain ⟨bound, -⟩ := Array.getElem?_eq_some_iff.mp here
  have one : start + 1 - start = 1 := Nat.add_sub_cancel_left start 1
  by_cases watched : watch.watchesToken lexeme.id = true
  · rw [Watch.tokenForest, if_pos watched]
    refine ⟨⟨Nat.le_refl _, Nat.le_refl _⟩, by omega, ?_, ?_⟩
    · intro event member
      cases List.mem_singleton.mp member
      exact watched
    · simp [events, Event.token, Event.tokenId?, one, Watch.tokenEvent?, here, watched]
  · rw [Watch.tokenForest, if_neg watched]
    refine ⟨Nat.le_succ start, by omega, ?_, ?_⟩
    · intro event member
      cases member
    · simp [events, one, Watch.tokenEvent?, here, watched]

theorem Faithful.rule {id : RuleId} {inner : Forest} (watched : watch.watchesRule id = true)
    (inside : inner.Faithful watch lexemes start stop) :
    (Forest.rule id start stop inner .nil).Faithful watch lexemes start stop where
  spans := ⟨Nat.le_refl start, inside.spans, Nat.le_refl stop⟩
  inside := inside.inside
  watched event member := by
    rcases List.mem_cons.mp member with same | within
    · subst event
      exact watched
    · rw [events, List.append_nil] at within
      exact inside.watched event within
  -- the event in front is no token
  tokens := by simpa [events, Event.tokenId?] using inside.tokens

theorem Faithful.lexeme {forest : Forest} (faithful : forest.Faithful watch lexemes start stop) :
    ∀ event ∈ forest.events, ∀ id, event.subject = .token id →
      ∃ lexeme, lexemes[event.start]? = some lexeme ∧ lexeme.id = id := by
  intro event member id subject
  have kept : event ∈ forest.events.filter (·.tokenId?.isSome) :=
    List.mem_filter.mpr ⟨member, by simp [Event.tokenId?, subject]⟩
  -- it is among the events of watched lexemes, which say where each was matched
  rw [faithful.tokens] at kept
  obtain ⟨index, -, made⟩ := List.mem_filterMap.mp kept
  unfold Watch.tokenEvent? at made
  split at made
  · next lexeme here =>
      split at made
      · cases made
        cases subject
        exact ⟨lexeme, here, rfl⟩
      · cases made
  · cases made

end Forest

namespace Finding

def Faithful (watch : Watch) (lexemes : Array Lexeme) (start : Nat) : Finding → Prop
  | .matched stop forest => forest.Faithful watch lexemes start stop
  | .failed => True

variable {watch : Watch} {lexemes : Array Lexeme} {start next : Nat} {finding : Finding}

theorem Faithful.after {front : Forest} (here : front.Faithful watch lexemes start next)
    (there : finding.Faithful watch lexemes next) :
    (finding.after front).Faithful watch lexemes start := by
  cases finding with
  | matched stop forest => exact here.append there
  | failed => trivial

theorem Faithful.under (id : RuleId) (body : finding.Faithful watch lexemes start) :
    (finding.under watch id start).Faithful watch lexemes start := by
  cases finding with
  | matched stop forest =>
      by_cases watched : watch.watchesRule id = true
      · rw [Finding.under, if_pos watched]
        exact Forest.Faithful.rule watched body
      · rw [Finding.under, if_neg watched]
        exact body
  | failed => trivial

theorem Faithful.ofCount (bounds : Bounds) (count : Nat) :
    (ofCount bounds count start).Faithful watch lexemes start := by
  unfold Finding.ofCount
  split
  · exact Forest.Faithful.nil
  · trivial

end Finding

theorem Finds.faithful {table : RuleTable} {watch : Watch} {lexemes : Array Lexeme} {task : Task}
    {cursor : Nat} {finding : Finding} (found : Finds table watch lexemes task cursor finding) :
    finding.Faithful watch lexemes cursor := by
  induction found with
  | token here same => exact same ▸ Forest.Faithful.token here
  | tokenOther | allFail | firstNone => trivial
  | rule _ _ ih => exact ih.under _
  | sequence _ ih | choice _ ih | repeated _ ih => exact ih
  | allDone => exact Forest.Faithful.nil
  | allNext _ _ ihHead ihTail => exact .after ihHead ihTail
  | firstHit _ ih => exact ih
  | firstNext _ _ _ ih => exact ih
  | roundsFull | roundsFail => exact .ofCount _ _
  | roundsEmpty _ _ ih => exact ih
  | roundsNext _ _ _ _ ihHead ihTail => exact .after ihHead ihTail

namespace Recognizer

/-- Whether events are a well-formed record of the lexemes in front of a cursor. -/
structure Records (r : Recognizer) (cursor : Nat) (events : List Event) : Prop where
  inside : cursor ≤ r.lexemes.size
  closed : ∀ event ∈ events, ∀ id, event.subject = .rule id →
    ∃ stop, event.stop = some stop ∧ event.start ≤ stop ∧ stop ≤ cursor
  ordered : events.Pairwise fun earlier later => earlier.start ≤ later.start
  nested : events.Pairwise Event.Nests
  watched : ∀ event ∈ events, r.watch.watches event.subject = true
  tokens : events.filter (·.tokenId?.isSome) =
    (List.range cursor).filterMap (r.watch.tokenEvent? r.lexemes)

variable {r : Recognizer} {id : RuleId} {journal : Option (Array Step)} {after : Progress}

theorem run_finds (accepted : r.run id journal = ⟨.matched, after⟩) :
    ∃ forest, r.Finds (.one (.rule id)) 0 (.matched after.cursor forest) ∧
      after.trail.events.toList = forest.events := by
  have backed := runRule_grounded (tryWithin_conservative (r := r) r.limits.fuel.toNat)
    (tryWithin_sound (r := r) r.limits.fuel.toNat) id (.start r.limits journal)
  change r.Grounded _ _ (r.run id journal) at backed
  rw [accepted] at backed
  obtain ⟨forest, found, recorded⟩ := backed
  refine ⟨forest, found, ?_⟩
  rw [recorded, Trail.toList_record]
  rfl

/-- The trail of an accepted run is a well-formed record of the lexemes that it took. -/
theorem run_records (accepted : r.run id journal = ⟨.matched, after⟩) :
    r.Records after.cursor after.trail.events.toList := by
  obtain ⟨forest, found, listed⟩ := run_finds accepted
  obtain ⟨spans, inside, watched, tokens⟩ := found.faithful
  rw [listed]
  refine ⟨by omega, ?_, spans.pairwise_start, spans.pairwise_nests, watched, ?_⟩
  · intro event member id subject
    have within := spans.within event member
    rw [Event.Within, subject] at within
    obtain ⟨stop, closed, -, ordered, behind⟩ := within
    exact ⟨stop, closed, ordered, behind⟩
  · rw [tokens, Nat.sub_zero, List.range_eq_range']

/-- A rule for one lexeme of the first kind and two lists of any of the second kind, over a
lexeme of each kind. Everything is watched. -/
def listing : Recognizer where
  table := ⟨.empty, #[
    ⟨"pair", "A items items", .reference "A", .sequence [.token ⟨0⟩, .rule ⟨1⟩, .rule ⟨1⟩]⟩,
    ⟨"items", "B*", .reference "B", .repeated ⟨0, none⟩ (.token ⟨1⟩)⟩]⟩
  watch := ⟨#[true, true], #[true, true]⟩
  limits := ⟨20, 2⟩
  lexemes := #[⟨⟨0⟩, ⟨0, "", []⟩, 0, 0⟩, ⟨⟨1⟩, ⟨0, "", []⟩, 0, 0⟩]

theorem run_records_listing :
    listing.Records 2 [⟨.rule ⟨0⟩, 0, some 2⟩, .token ⟨0⟩ 0, ⟨.rule ⟨1⟩, 1, some 2⟩,
      .token ⟨1⟩ 1, ⟨.rule ⟨1⟩, 2, some 2⟩] := by
  have accepted : listing.run ⟨0⟩ none = ⟨.matched, ⟨2, ⟨#[⟨.rule ⟨0⟩, 0, some 2⟩,
      .token ⟨0⟩ 0, ⟨.rule ⟨1⟩, 1, some 2⟩, .token ⟨1⟩ 1, ⟨.rule ⟨1⟩, 2, some 2⟩]⟩,
      11, 0, none⟩⟩ := by decide +kernel
  exact run_records accepted

end Recognizer

end TextGrammar
