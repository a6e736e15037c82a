import Mathlib
import TextGrammar.Proofs.Matching.Lockstep
import TextGrammar.Proofs.Matching.Record

/-!
What a watch has to do with a match: nothing beyond the events that the match leaves. A run
that records less takes the same steps to the same verdict, with the same fuel and depth at
every place, and its trail is the part of the other run's trail that it watches.
-/

namespace TextGrammar

open Notation (Bounds)

def Trail.restrict (kept : Subject → Bool) (trail : Trail) : Trail :=
  ⟨trail.events.filter fun event => kept event.subject⟩

def Progress.restrict (kept : Subject → Bool) (state : Progress) : Progress :=
  { state with trail := state.trail.restrict kept }

def Outcome.restrict (kept : Subject → Bool) (outcome : Outcome) : Outcome :=
  ⟨outcome.verdict, outcome.state.restrict kept⟩

/-- Whether one watch, as far as the rules and tokens of a table go, watches nothing that
another does not. -/
structure Watch.Below (table : RuleTable) (narrow wide : Watch) : Prop where
  rule : ∀ id rule, table.rule? id = some rule →
    narrow.watchesRule id = true → wide.watchesRule id = true
  token : ∀ id name, table.lexicon.name? id = some name →
    narrow.watchesToken id = true → wide.watchesToken id = true

theorem Watch.watchesRule_all (table : RuleTable) (id : RuleId) :
    (Watch.all table).watchesRule id = (table.rule? id).isSome := by
  simp only [watchesRule, all, Array.getElem?_replicate, RuleTable.rule?]
  by_cases inside : id.index < table.size
  · rw [if_pos inside, Array.getElem?_eq_getElem inside]
    rfl
  · rw [if_neg inside, Array.getElem?_eq_none (Nat.not_lt.mp inside)]
    rfl

theorem Watch.watchesToken_all (table : RuleTable) (id : TokenId) :
    (Watch.all table).watchesToken id = (table.lexicon.name? id).isSome := by
  have counted : table.lexicon.names.length = table.lexicon.size := List.length_map ..
  simp only [watchesToken, all, Array.getElem?_replicate, Lexicon.name?]
  by_cases inside : id.index < table.lexicon.size
  · rw [if_pos inside, List.getElem?_eq_getElem (counted ▸ inside)]
    rfl
  · rw [if_neg inside, List.getElem?_eq_none (counted ▸ Nat.not_lt.mp inside)]
    rfl

theorem Watch.below_all (table : RuleTable) (watch : Watch) : watch.Below table (.all table) where
  rule id rule declared _ := by
    rw [watchesRule_all, declared]
    rfl
  token id name declared _ := by
    rw [watchesToken_all, declared]
    rfl

section Restrict

variable {kept : Subject → Bool}

theorem Trail.restrict_record (trail : Trail) (events : List Event) :
    (trail.record events).restrict kept =
      (trail.restrict kept).record (events.filter fun event => kept event.subject) := by
  simp [restrict, record]

theorem Trail.toList_restrict (trail : Trail) :
    (trail.restrict kept).events.toList =
      trail.events.toList.filter fun event => kept event.subject := by
  simp [restrict]

theorem Progress.Precedes.restrict_backtrack {before after : Progress}
    (precedes : before.Precedes after) :
    (after.backtrack before.bookmark).restrict kept =
      (after.restrict kept).backtrack (before.restrict kept).bookmark := by
  obtain ⟨-, ⟨events, recorded⟩, -⟩ := precedes
  have wide : after.trail.truncate before.trail.size = before.trail := by
    rw [recorded]
    exact Trail.truncate_record before.trail events
  have narrow : (after.trail.restrict kept).truncate (before.trail.restrict kept).size =
      before.trail.restrict kept := by
    rw [recorded, Trail.restrict_record]
    exact Trail.truncate_record _ _
  unfold Progress.backtrack
  by_cases still : after.cursor = before.cursor
  · simp [Progress.restrict, bookmark, restore, wide, narrow, still]
  · simp [Progress.restrict, bookmark, restore, note, wide, narrow, still]

end Restrict

def Mirrors (table : RuleTable) (kept : Subject → Bool)
    (narrow wide : Matcher → Progress → Outcome) : Prop :=
  ∀ matcher, matcher.Within table → ∀ state,
    narrow matcher (state.restrict kept) = (wide matcher state).restrict kept

namespace Recognizer

def under (r : Recognizer) (watch : Watch) : Recognizer := { r with watch := watch }

variable {r : Recognizer} {watch : Watch} {narrow wide : Matcher → Progress → Outcome}

theorem testToken_of_named {id : TokenId} {name : String}
    (named : r.table.lexicon.name? id = some name) (state : Progress) :
    r.testToken id state =
      let isMatch := (r.peek? state).any (·.id = id)
      let noted := state.note (.test id state.cursor (r.peek? state) isMatch)
      if isMatch then
        ⟨.matched, { noted with
          cursor := state.cursor + 1
          trail := state.trail.record (r.watch.tokenForest id state.cursor).events }⟩
      else ⟨.failed, noted⟩ := by
  have declared : (r.table.lexicon.name? id).isNone = false := by rw [named]; rfl
  unfold testToken
  simp only [declared, Bool.and_false, Bool.false_eq_true, if_false]
  by_cases isMatch : (r.peek? state).any (·.id = id) = true
  · by_cases watched : r.watch.watchesToken id = true
    · simp [isMatch, watched, Watch.tokenForest, Forest.events, Trail.push_eq_record]
    · simp [isMatch, watched, Watch.tokenForest, Forest.events, Progress.note]
  · simp [isMatch]

theorem events_tokenForest_restrict {table : RuleTable} {few many : Watch}
    (below : few.Below table many) {id : TokenId} {name : String}
    (named : table.lexicon.name? id = some name) (cursor : Nat) :
    (few.tokenForest id cursor).events =
      (many.tokenForest id cursor).events.filter fun event => few.watches event.subject := by
  by_cases watched : few.watchesToken id = true
  · have wider := below.token id name named watched
    simp [Watch.tokenForest, watched, wider, Forest.events, Event.token, Watch.watches]
  · by_cases wider : many.watchesToken id = true <;>
      simp [Watch.tokenForest, watched, wider, Forest.events, Event.token, Watch.watches]

theorem testToken_restrict (below : watch.Below r.table r.watch) {id : TokenId} {name : String}
    (named : r.table.lexicon.name? id = some name) (state : Progress) :
    (r.under watch).testToken id (state.restrict watch.watches) =
      (r.testToken id state).restrict watch.watches := by
  have seen : (r.under watch).peek? (state.restrict watch.watches) = r.peek? state := rfl
  rw [testToken_of_named named, testToken_of_named (r := r.under watch) named]
  simp only [seen]
  split
  · simp only [under, Outcome.restrict, Progress.restrict, Progress.note, Trail.restrict_record,
      events_tokenForest_restrict below named]
  · rfl

section Rule

variable {kept : Subject → Bool} {id : RuleId} {body : Matcher}

theorem runWatched_restrict (few : Conservative narrow) (many : Conservative wide)
    (mirrored : ∀ state, narrow body (state.restrict kept) = (wide body state).restrict kept)
    (watched : kept (.rule id) = true) (state : Progress) :
    runWatched narrow id body (state.restrict kept) =
      (runWatched wide id body state).restrict kept := by
  have begins : { state.restrict kept with
      trail := (state.restrict kept).trail.record [.rule id (state.restrict kept).cursor] } =
        Progress.restrict kept { state with
          trail := state.trail.record [.rule id state.cursor] } := by
    simp [Progress.restrict, Trail.restrict_record, Event.rule, watched]
  have inner := many body { state with trail := state.trail.record [.rule id state.cursor] }
  have became := runWatched_cases many id body state
  have becameFew := runWatched_cases few id body (state.restrict kept)
  rw [begins, mirrored] at becameFew
  rcases ran : wide body { state with trail := state.trail.record [.rule id state.cursor] }
    with ⟨verdict, after⟩
  rw [ran] at inner became becameFew
  cases verdict with
  | matched =>
      obtain ⟨events, recorded, closed⟩ := became
      obtain ⟨fewer, recordedFew, closedFew⟩ := becameFew
      rw [closed, closedFew]
      -- the events of the body are the kept ones
      change after.trail.restrict kept = _ at recordedFew
      rw [recorded, Trail.restrict_record] at recordedFew
      have same := Trail.record_inj recordedFew
      simp only [List.filter_cons, Event.rule, watched, if_true] at same
      simp [Outcome.restrict, Progress.restrict, Trail.restrict_record, watched,
        ← (List.cons.inj same).2]
  | failed =>
      obtain ⟨-, cursor, trail, observed⟩ := inner
      have precedes : state.Precedes after := ⟨Nat.le_of_eq cursor.symm, ⟨_, trail⟩, observed⟩
      rw [became]
      exact becameFew.trans (congrArg (Outcome.mk .failed) precedes.restrict_backtrack.symm)
  | stopped why =>
      rw [became]
      exact becameFew

theorem runWatched_restrict_of_not (many : Conservative wide)
    (mirrored : ∀ state, narrow body (state.restrict kept) = (wide body state).restrict kept)
    (unwatched : kept (.rule id) = false) (state : Progress) :
    narrow body (state.restrict kept) = (runWatched wide id body state).restrict kept := by
  have begins : state.restrict kept = Progress.restrict kept { state with
      trail := state.trail.record [.rule id state.cursor] } := by
    simp [Progress.restrict, Trail.restrict_record, Event.rule, unwatched]
  have inner := many body { state with trail := state.trail.record [.rule id state.cursor] }
  have became := runWatched_cases many id body state
  rw [begins, mirrored]
  rcases ran : wide body { state with trail := state.trail.record [.rule id state.cursor] }
    with ⟨verdict, after⟩
  rw [ran] at inner became
  cases verdict with
  | matched =>
      obtain ⟨events, recorded, closed⟩ := became
      rw [closed]
      simp [Outcome.restrict, Progress.restrict, recorded, Trail.restrict_record, Event.rule,
        unwatched]
  | failed =>
      obtain ⟨-, cursor, trail, observed⟩ := inner
      -- the body has gone back already, so going back again is no step
      have same : after.cursor = state.bookmark.cursor := cursor
      rw [became, Progress.backtrack, if_pos same]
      have truncated : after.trail.truncate state.trail.size = state.trail := by
        rw [trail]
        exact Trail.truncate_record _ _
      simp only [Outcome.restrict, Progress.restrict, Progress.restore, Progress.bookmark]
      rw [truncated, trail, Trail.restrict_record, cursor]
      simp [Event.rule, unwatched]
  | stopped why => rw [became]

end Rule

theorem runBody_restrict (below : watch.Below r.table r.watch) (few : Conservative narrow)
    (many : Conservative wide) (mirrors : Mirrors r.table watch.watches narrow wide)
    {id : RuleId} {rule : Rule} (declared : r.table.rule? id = some rule)
    (within : rule.matcher.Within r.table) (state : Progress) :
    (r.under watch).runBody narrow id rule.matcher (state.restrict watch.watches) =
      (r.runBody wide id rule.matcher state).restrict watch.watches := by
  have mirrored := mirrors rule.matcher within
  unfold runBody
  by_cases watched : watch.watchesRule id = true
  · have wider := below.rule id rule declared watched
    rw [if_pos wider, under, if_pos watched]
    exact runWatched_restrict few many mirrored watched state
  · rw [under, if_neg watched]
    split
    · exact runWatched_restrict_of_not many mirrored (by simpa [Watch.watches] using watched) state
    · exact mirrored state

theorem leaveRule_restrict {kept : Subject → Bool} (id : RuleId) (matched : Bool)
    (state : Progress) :
    leaveRule id matched (state.restrict kept) = (leaveRule id matched state).restrict kept := by
  obtain ⟨cursor, trail, fuel, depth, journal⟩ := state
  cases depth with
  | zero => rfl
  | succ depth => rfl

theorem runRule_restrict (below : watch.Below r.table r.watch) (closed : r.table.Closed)
    (few : Conservative narrow) (many : Conservative wide)
    (mirrors : Mirrors r.table watch.watches narrow wide) (id : RuleId) (state : Progress) :
    (r.under watch).runRule narrow id (state.restrict watch.watches) =
      (r.runRule wide id state).restrict watch.watches := by
  have sameDepth : (r.under watch).limits.depth.toNat ≤ (state.restrict watch.watches).depth ↔
      r.limits.depth.toNat ≤ state.depth := Iff.rfl
  have sameRule : (r.under watch).table.rule? id = r.table.rule? id := rfl
  have entered : (state.restrict watch.watches).enter id =
      (state.enter id).restrict watch.watches := rfl
  unfold runRule
  by_cases deep : r.limits.depth.toNat ≤ state.depth
  · rw [if_pos deep, if_pos (sameDepth.mpr deep)]
    rfl
  · rw [if_neg deep, if_neg (mt sameDepth.mp deep), sameRule, entered]
    cases declared : r.table.rule? id with
    | none => rfl
    | some rule =>
        dsimp only
        rw [runBody_restrict below few many mirrors declared (closed id rule declared)]
        rcases r.runBody wide id rule.matcher (state.enter id) with ⟨verdict, after⟩
        cases verdict with
        | matched => exact leaveRule_restrict id true after
        | failed => exact leaveRule_restrict id false after
        | stopped why => rfl

section Together

variable {kept : Subject → Bool} {table : RuleTable}

def Restricts (kept : Subject → Bool) (whole part : Progress) : Prop := part = whole.restrict kept

theorem alike_restricts_iff {left right : Outcome} :
    left.Alike (Restricts kept) (fun _ => False) right ↔ right = left.restrict kept :=
  Outcome.alike_map_iff (·.restrict kept)

theorem runsAlike_restricts_iff :
    RunsAlike table (Restricts kept) (fun _ => False) wide narrow ↔
      Mirrors table kept narrow wide := by
  constructor
  · intro alike matcher within state
    exact alike_restricts_iff.mp (alike matcher within state (state.restrict kept) rfl)
  · rintro mirrors matcher within state _ rfl
    exact alike_restricts_iff.mpr (mirrors matcher within state)

theorem lockstep_restricts : Lockstep (Restricts kept) where
  fuel := by
    rintro whole _ rfl
    rfl
  spend := by
    rintro whole _ fuel rfl
    rfl
  still := by
    rintro whole _ further _ rfl rfl
    exact Iff.rfl
  back := by
    rintro whole _ further _ rfl rfl precedes -
    exact precedes.restrict_backtrack.symm

end Together

theorem paired_restricts (below : watch.Below r.table r.watch) (closed : r.table.Closed) :
    r.Paired (r.under watch) (Restricts watch.watches) fun _ => False where
  lockstep := lockstep_restricts
  token := by
    rintro id name named state _ rfl
    exact alike_restricts_iff.mpr (testToken_restrict below named state)
  rule := by
    rintro id rule declared wide narrow many few alike state _ rfl
    apply alike_restricts_iff.mpr
    exact runRule_restrict below closed few many (runsAlike_restricts_iff.mp alike) id state

theorem tryWithin_mirrors (below : watch.Below r.table r.watch) (closed : r.table.Closed)
    (nesting : Nat) :
    Mirrors r.table watch.watches ((r.under watch).tryWithin nesting) (r.tryWithin nesting) :=
  runsAlike_restricts_iff.mp ((paired_restricts below closed).tryWithin nesting)

/-- A run that watches less takes the same steps and leaves what it watches of the trail. -/
theorem run_restrict (below : watch.Below r.table r.watch) (closed : r.table.Closed)
    (id : RuleId) (journal : Option (Array Step)) :
    (r.under watch).run id journal = (r.run id journal).restrict watch.watches :=
  runRule_restrict below closed (tryWithin_conservative _) (tryWithin_conservative _)
    (tryWithin_mirrors below closed _) id (.start r.limits journal)

/-- With the rules of a table made from names and bodies, it makes no difference to a match
what is watched. Whatever the verdict, a run under any watch comes to the one that a run
watching everything comes to, at the same cursor, with the same fuel left and the same depth,
having noted the same steps, and its trail is what it watches of the other one. -/
theorem run_watch_independent {lexicon : Lexicon} {rules : List (String × String)}
    {table : RuleTable} (made : RuleTable.ofRules lexicon rules = .ok table) (limits : Limits)
    (lexemes : Array Lexeme) (watch : Watch) (id : RuleId) (journal : Option (Array Step)) :
    let one := (⟨table, watch, limits, lexemes⟩ : Recognizer).run id journal
    let all := (⟨table, .all table, limits, lexemes⟩ : Recognizer).run id journal
    one.verdict = all.verdict ∧ one.state.cursor = all.state.cursor ∧
      one.state.fuel = all.state.fuel ∧ one.state.depth = all.state.depth ∧
      one.state.journal = all.state.journal ∧
      one.state.trail.events.toList =
        all.state.trail.events.toList.filter fun event => watch.watches event.subject := by
  intro one all
  have same : one = all.restrict watch.watches :=
    run_restrict (r := ⟨table, .all table, limits, lexemes⟩) (watch.below_all table)
      (RuleTable.ofRules_closed made) id journal
  rw [same]
  exact ⟨rfl, rfl, rfl, rfl, rfl, all.state.trail.toList_restrict⟩

/-- Two lists of one token, parted by another one. The patterns have no part in a match. -/
def lists : RuleTable where
  lexicon := ⟨[⟨"A", .literally ['a']⟩, ⟨"B", .literally ['b']⟩], by decide⟩
  rules := #[
    ⟨"pair", "list A list",
      .sequence [.reference "list", .reference "A", .reference "list"],
      .sequence [.rule ⟨1⟩, .token ⟨0⟩, .rule ⟨1⟩]⟩,
    ⟨"list", "B+", .repeated ⟨1, none⟩ (.reference "B"), .repeated ⟨1, none⟩ (.token ⟨1⟩)⟩]

def lexemesOf (ids : List TokenId) : Array Lexeme :=
  (ids.map fun id => ⟨id, ⟨0, "", []⟩, 0, 0⟩).toArray

/-- The fuel runs out in the second list. Where only lists are watched, the first one's event
is left, and the open event of the second. -/
theorem run_watch_independent_lists :
    let only : Watch := ⟨#[false, true], #[]⟩
    let lexemes := lexemesOf [⟨1⟩, ⟨0⟩, ⟨1⟩]
    let one := (⟨lists, only, ⟨8, 2⟩, lexemes⟩ : Recognizer).run ⟨0⟩ none
    let all := (⟨lists, .all lists, ⟨8, 2⟩, lexemes⟩ : Recognizer).run ⟨0⟩ none
    RuleTable.ofRules lists.lexicon [("pair", "list A list"), ("list", "B+")] = .ok lists ∧
      all.verdict = .stopped .fuelExhausted ∧ one.verdict = all.verdict ∧
      one.state.trail.events.toList = [⟨.rule ⟨1⟩, 0, some 1⟩, ⟨.rule ⟨1⟩, 2, none⟩] ∧
      one.state.trail.events.toList =
        all.state.trail.events.toList.filter fun event => only.watches event.subject := by
  intro only lexemes one all
  have made : RuleTable.ofRules lists.lexicon [("pair", "list A list"), ("list", "B+")] =
      .ok lists := by cbv
  obtain ⟨verdict, -, -, -, -, kept⟩ :=
    run_watch_independent made ⟨8, 2⟩ lexemes only ⟨0⟩ none
  exact ⟨made, by decide +kernel, verdict, by decide +kernel, kept⟩

end Recognizer

end TextGrammar
