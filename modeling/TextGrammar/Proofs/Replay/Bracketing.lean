import Mathlib.Data.List.Induction
import TextGrammar.Proofs.Replay.Selection

/-!
Replaying any events, be they in order and nested or not. A replay stops at the first event that it
cannot get past, with the calls for those in front of it and with what is due there left. If there
is none, its calls open and close like brackets: what is left is always what was entered last.
-/

namespace TextGrammar

namespace Event

/-- Whether a replay stops at an event: that of a rule without an end, or that of a token where
there is no lexeme. -/
def Stops (lexemes : Array Lexeme) (event : Event) : Prop :=
  match event.subject with
  | .rule _ => event.stop = none
  | .token _ => lexemes.size ≤ event.start

def fault (lexemes : Array Lexeme) (event : Event) : Fault :=
  match event.subject with
  | .rule _ => .neverClosed event.start
  | .token _ => .pastEnd event.start lexemes.size

theorem not_stops_iff {lexemes : Array Lexeme} {event : Event} :
    ¬event.Stops lexemes ↔ event.Playable lexemes := by
  unfold Stops Playable
  cases event.subject with
  | rule id => simp [Option.ne_none_iff_exists']
  | token id => simp [Array.getElem?_eq_some_iff]

end Event

/-- Whether calls for some events open and close like brackets. Each event begins once, in order,
and each rule is left once, all those that were entered behind it having been left. -/
structure Brackets (events : List Event) (cues : List Cue) : Prop where
  begun : cues.filter (!·.isLeave) = events.zipIdx.map fun (event, slot) => event.cue slot
  once : ∀ (slot : Nat) (event : Event), events[slot]? = some event →
    cues.count (event.cue slot) = 1
  left : ∀ slot, cues.count (.leave slot) = cues.count (.enter slot)
  latest : ∀ (front : List Cue) (slot : Nat) (back : List Cue),
    cues = front ++ .leave slot :: back → ∃ early within : List Cue,
      front = early ++ .enter slot :: within ∧ .leave slot ∉ front ∧
        ∀ other, .enter other ∈ within → .leave other ∈ within

section Stopping

variable {lexemes : Array Lexeme} {event : Event} {before events : List Event}

theorem replayFrom_of_stops (stops : event.Stops lexemes) (nest : List OpenRule)
    (rest : List Event) : replayFrom lexemes nest (event :: rest) =
      ⟨(nest.takeWhile fun rule => rule.stop ≤ event.start).map (fun rule => .leave rule.event),
        some (event.fault lexemes)⟩ := by
  unfold Event.Stops at stops
  rw [replayFrom, Event.fault]
  cases subject : event.subject with
  | rule id =>
      rw [subject] at stops
      simp only [stops]
  | token id =>
      rw [subject] at stops
      simp only [Array.getElem?_eq_none stops]

theorem fault_replayFrom_eq_none_iff (nest : List OpenRule) :
    (replayFrom lexemes nest events).fault = none ↔ ∀ event ∈ events, ¬event.Stops lexemes := by
  induction events generalizing nest with
  | nil => simp [replayFrom]
  | cons event rest ih =>
      by_cases stops : event.Stops lexemes
      · rw [replayFrom_of_stops stops]
        simp [stops]
      · obtain ⟨call, -, -, steps⟩ := replayFrom_of_playable (Event.not_stops_iff.mp stops)
        rw [steps, List.forall_mem_cons]
        exact (ih _).trans (and_iff_right stops).symm

theorem Event.stop_of_mem_opens (playable : event.Playable lexemes) {rule : OpenRule}
    (member : rule ∈ event.opens) : rule.event.stop = some rule.stop := by
  unfold Event.Playable at playable
  unfold Event.opens at member
  cases subject : event.subject with
  | rule id =>
      rw [subject] at playable member
      obtain ⟨stop, closed⟩ := playable
      rw [List.mem_singleton.mp member]
      simp [closed]
  | token id =>
      rw [subject] at member
      cases member

theorem replayFrom_behind (playable : ∀ event ∈ before, event.Playable lexemes)
    (nest : List OpenRule) (closed : ∀ rule ∈ nest, rule.event.stop = some rule.stop) :
    ∃ made opened, (∀ rest, replayFrom lexemes nest (before ++ rest) =
        (replayFrom lexemes opened rest).after made) ∧
      (∀ call ∈ made.getLast?, call.isLeave = false) ∧
      ∀ rule ∈ opened, rule.event.stop = some rule.stop := by
  induction before generalizing nest with
  | nil => exact ⟨[], nest, fun rest => rfl, by simp, closed⟩
  | cons event later ih =>
      obtain ⟨here, others⟩ := List.forall_mem_cons.mp playable
      obtain ⟨call, -, begins, steps⟩ := replayFrom_of_playable here
      obtain ⟨made, opened, onward, last, ended⟩ := ih others
        (event.opens ++ nest.dropWhile fun rule => rule.stop ≤ event.start) (by
          intro rule member
          rcases List.mem_append.mp member with fresh | kept
          · exact Event.stop_of_mem_opens here fresh
          · exact closed rule ((List.dropWhile_sublist _).subset kept))
      refine ⟨((nest.takeWhile fun rule => rule.stop ≤ event.start).map (fun rule =>
        Call.leave rule.event) ++ [call]) ++ made, opened, fun rest => ?_, ?_, ended⟩
      · rw [List.cons_append, steps, onward, Replay.after_after]
      · intro final there
        cases made with
        | nil =>
            rw [List.append_nil, List.getLast?_concat] at there
            exact Option.mem_some.mp there ▸ begins
        | cons first made =>
            rw [List.getLast?_append_cons] at there
            exact last final there

end Stopping

namespace Bracketed

variable {shelter : Nat → List Nat} {front back : List Cue}

theorem entered (word : Bracketed shelter [] (front ++ back)) :
    ∃ kept, Bracketed shelter kept back ∧ ∀ inside slot outside,
      kept = inside ++ slot :: outside → ∃ early within : List Cue,
        front = early ++ .enter slot :: within ∧
          ∀ other, .enter other ∈ within → .leave other ∈ within ∨ other ∈ inside := by
  induction front using List.reverseRecOn generalizing back with
  | nil => exact ⟨[], word, by simp⟩
  | append_singleton front cue ih =>
      rw [List.append_assoc, List.singleton_append] at word
      obtain ⟨nest, middle, known⟩ := ih word
      cases middle with
      | @enter entered _ _ here behind =>
          refine ⟨entered :: nest, behind, fun inside slot outside parts => ?_⟩
          cases inside with
          | nil =>
              obtain ⟨rfl, -⟩ := List.cons.inj parts
              exact ⟨front, [], by simp, by simp⟩
          | cons first inside =>
              obtain ⟨rfl, later⟩ := List.cons.inj parts
              obtain ⟨early, within, rfl, done⟩ := known inside slot outside later
              refine ⟨early, within ++ [Cue.enter entered], by simp, fun other there => ?_⟩
              rcases List.mem_append.mp there with before | now
              · exact (done other before).imp (List.mem_append_left _) (List.mem_cons_of_mem _)
              · have same := Cue.enter.inj (List.mem_singleton.mp now)
                exact .inr (same ▸ List.mem_cons_self)
      | @leave left nest _ here behind =>
          refine ⟨nest, behind, fun inside slot outside parts => ?_⟩
          obtain ⟨early, within, rfl, done⟩ := known (left :: inside) slot outside (by simp [parts])
          refine ⟨early, within ++ [Cue.leave left], by simp, fun other there => ?_⟩
          have before : .enter other ∈ within := by simpa using there
          rcases done other before with gone | still
          · exact .inl (List.mem_append_left _ gone)
          · rcases List.mem_cons.mp still with rfl | deeper
            · exact .inl (List.mem_append_right _ (List.mem_singleton.mpr rfl))
            · exact .inr deeper
      | @token told _ _ here behind =>
          refine ⟨nest, behind, fun inside slot outside parts => ?_⟩
          obtain ⟨early, within, rfl, done⟩ := known inside slot outside parts
          refine ⟨early, within ++ [Cue.token told], by simp, fun other there => ?_⟩
          have before : .enter other ∈ within := by simpa using there
          exact (done other before).imp_left (List.mem_append_left _)

end Bracketed

theorem brackets_cuesFrom (events : List Event) : Brackets events (cuesFrom 0 [] events) := by
  have word := cues_bracketed events
  have begun := filter_cuesFrom 0 [] events
  have counted : ∀ cue : Cue, cue.isLeave = false →
      (cuesFrom 0 [] events).count cue =
        (events.zipIdx.map fun (event, slot) => event.cue slot).count cue := by
    intro cue opens
    rw [← begun, List.count_filter (by simp [opens])]
  refine ⟨begun, fun slot event listed => ?_, fun slot => ?_, fun front slot back parts => ?_⟩
  · have member : event.cue slot ∈ events.zipIdx.map fun (event, slot) => event.cue slot :=
      List.mem_map.mpr ⟨(event, slot), List.mk_mem_zipIdx_iff_getElem?.mpr listed, rfl⟩
    rw [counted _ (isLeave_cue event slot)]
    exact List.count_eq_one_of_mem (nodup_begun events) member
  · simpa using word.count_leave slot
  · have total := word.count_leave slot
    rw [parts] at word total
    obtain ⟨kept, behind, known⟩ := word.entered
    cases behind with
    | @leave _ outside _ _ _ =>
        obtain ⟨early, within, same, done⟩ := known [] slot outside rfl
        refine ⟨early, within, same, ?_, fun other there => ?_⟩
        · have few := List.nodup_iff_count_le_one.mp (nodup_begun events) (.enter slot)
          rw [← counted _ rfl, parts] at few
          rw [List.count_append, List.count_cons_self, List.count_nil, Nat.zero_add] at total
          rw [← List.count_eq_zero]
          omega
        · simpa using done other there

/-- What replaying any trail comes to. It meets a fault if there is an event that it stops at, and
the fault is that of the first such event. Up to there it has called what it would for the events in
front of that one, except that of the rules then open it has left those that are due there, and no
others. If it meets no fault, its calls open and close like brackets. -/
theorem Trail.replay_any (trail : Trail) (lexemes : Array Lexeme) :
    ((trail.replay lexemes).fault ≠ none ↔
      ∃ event ∈ trail.events.toList, event.Stops lexemes) ∧
    (∀ before event rest, trail.events.toList = before ++ event :: rest →
      (∀ earlier ∈ before, ¬earlier.Stops lexemes) → event.Stops lexemes →
      (trail.replay lexemes).fault = some (event.fault lexemes) ∧
      ∃ (made : List Call) (opened : List OpenRule),
        (∀ call ∈ made.getLast?, call.isLeave = false) ∧
        (∀ rule ∈ opened, rule.event.stop = some rule.stop) ∧
        (Trail.replay ⟨before.toArray⟩ lexemes).calls =
          made ++ opened.map (fun rule => Call.leave rule.event) ∧
        (trail.replay lexemes).calls = made ++
          (opened.takeWhile fun rule => rule.stop ≤ event.start).map fun rule =>
            Call.leave rule.event) ∧
    ((trail.replay lexemes).fault = none →
      trail.cues.map (·.call? trail.events.toList lexemes) =
        (trail.replay lexemes).calls.map some ∧
      Brackets trail.events.toList trail.cues) := by
  refine ⟨?_, fun before event rest parts passed stops => ?_, fun faultless => ⟨?_, ?_⟩⟩
  · rw [Ne, Trail.replay, fault_replayFrom_eq_none_iff]
    simp
  · obtain ⟨made, opened, onward, last, ended⟩ := replayFrom_behind
      (fun earlier member => Event.not_stops_iff.mp (passed earlier member)) [] (by simp)
    have whole := onward (event :: rest)
    rw [← parts, replayFrom_of_stops stops] at whole
    have alone := onward []
    rw [List.append_nil] at alone
    rw [Trail.replay, Trail.replay, whole, List.toList_toArray, alone]
    exact ⟨rfl, made, opened, last, ended, rfl, rfl⟩
  · have playable : ∀ event ∈ trail.events.toList, event.Playable lexemes :=
      fun event member => Event.not_stops_iff.mp
        ((fault_replayFrom_eq_none_iff []).mp faultless event member)
    exact (replayFrom_eq_cues trail.events.toList 0 [] rfl (by simp) playable).2
  · exact brackets_cuesFrom trail.events.toList

def crossing : Trail := ⟨#[⟨.rule ⟨0⟩, 0, some 3⟩, ⟨.rule ⟨1⟩, 2, some 5⟩, .token ⟨1⟩ 1]⟩

theorem replay_any_crossing :
    Brackets crossing.events.toList crossing.cues ∧
      ((crossing.push (.rule ⟨2⟩ 3)).replay Recognizer.listing.lexemes).fault =
        some (.neverClosed 3) ∧
      ∃ (made : List Call) (opened : List OpenRule),
        (crossing.replay Recognizer.listing.lexemes).calls =
          made ++ opened.map (fun rule => Call.leave rule.event) ∧
        ((crossing.push (.rule ⟨2⟩ 3)).replay Recognizer.listing.lexemes).calls =
          made ++ (opened.takeWhile fun rule => rule.stop ≤ 3).map fun rule =>
            Call.leave rule.event := by
  obtain ⟨-, -, brackets⟩ := Trail.replay_any crossing Recognizer.listing.lexemes
  obtain ⟨-, stopped, -⟩ := Trail.replay_any (crossing.push (.rule ⟨2⟩ 3))
    Recognizer.listing.lexemes
  have passed : ∀ earlier ∈ crossing.events.toList,
      ¬earlier.Stops Recognizer.listing.lexemes := by
    simp [crossing, Event.Stops, Event.token, Recognizer.listing]
  obtain ⟨fault, made, opened, -, -, calls, stop⟩ := stopped crossing.events.toList
    (.rule ⟨2⟩ 3) [] rfl passed rfl
  exact ⟨(brackets (by decide +kernel)).2, fault, made, opened, calls, stop⟩

/-- The rule that ends at 3 is not left there, for it is buried under the one that goes on. -/
example : ((crossing.push (.rule ⟨2⟩ 3)).replay Recognizer.listing.lexemes).calls.any
    (·.isLeave) = false := by decide +kernel

end TextGrammar
