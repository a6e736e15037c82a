import TextGrammar.Replay

/-!
The calls of a replay by the slots of their events, since two events may be equal. For any
events that can be replayed the calls begin in order, and open and close like brackets.
Between the brackets of which rules a call stands is told by the rules that were open when
its event came up, its shelter.
-/

namespace TextGrammar

/-- A call by the slot of its event. -/
inductive Cue where
  | enter (slot : Nat)
  | leave (slot : Nat)
  | token (slot : Nat)
  deriving DecidableEq, Repr

namespace Cue

def slot : Cue → Nat
  | .enter slot | .leave slot | .token slot => slot

def isLeave : Cue → Bool
  | .leave _ => true
  | .enter _ | .token _ => false

def call? (events : List Event) (lexemes : Array Lexeme) : Cue → Option Call
  | .enter slot => events[slot]?.map .enter
  | .leave slot => events[slot]?.map .leave
  | .token slot => events[slot]?.bind fun event => lexemes[event.start]?.map (.token event ·)

end Cue

structure Opening where
  slot : Nat
  rule : OpenRule
  deriving DecidableEq, Repr

namespace Event

def cue (event : Event) (slot : Nat) : Cue :=
  match event.subject with
  | .rule _ => .enter slot
  | .token _ => .token slot

def due (event : Event) (nest : List Opening) : List Opening :=
  nest.takeWhile fun opening => opening.rule.stop ≤ event.start

def shelter (event : Event) (nest : List Opening) : List Opening :=
  nest.dropWhile fun opening => opening.rule.stop ≤ event.start

def nestBehind (event : Event) (slot : Nat) (nest : List Opening) : List Opening :=
  match event.subject with
  | .rule _ => ⟨slot, event, event.stop.getD event.start⟩ :: event.shelter nest
  | .token _ => event.shelter nest

def Playable (lexemes : Array Lexeme) (event : Event) : Prop :=
  match event.subject with
  | .rule _ => ∃ stop, event.stop = some stop
  | .token _ => ∃ lexeme, lexemes[event.start]? = some lexeme

end Event

def cuesFrom (slot : Nat) (nest : List Opening) : List Event → List Cue
  | [] => nest.map fun opening => .leave opening.slot
  | event :: rest =>
      (event.due nest).map (fun opening => .leave opening.slot) ++
        event.cue slot :: cuesFrom (slot + 1) (event.nestBehind slot nest) rest

def sheltersFrom (slot : Nat) (nest : List Opening) : List Event → List (List Opening)
  | [] => []
  | event :: rest =>
      event.shelter nest :: sheltersFrom (slot + 1) (event.nestBehind slot nest) rest

def Trail.cues (trail : Trail) : List Cue := cuesFrom 0 [] trail.events.toList

theorem leaves_calls {events : List Event} {lexemes : Array Lexeme} {nest : List Opening}
    (opened : ∀ opening ∈ nest, events[opening.slot]? = some opening.rule.event) :
    (nest.map fun opening => Cue.leave opening.slot).map (·.call? events lexemes) =
      (nest.map fun opening => Call.leave opening.rule.event).map some := by
  rw [List.map_map, List.map_map]
  apply List.map_congr_left
  intro opening member
  simp [Cue.call?, opened opening member]

theorem replayFrom_cons {all : List Event} {lexemes : Array Lexeme} {event : Event} {slot : Nat}
    (nest : List Opening) (rest : List Event) (here : all[slot]? = some event)
    (playable : event.Playable lexemes) :
    ∃ call, (event.cue slot).call? all lexemes = some call ∧
      replayFrom lexemes (nest.map (·.rule)) (event :: rest) =
        (replayFrom lexemes ((event.nestBehind slot nest).map (·.rule)) rest).after
          ((event.due nest).map (fun opening => .leave opening.rule.event) ++ [call]) := by
  rw [replayFrom, List.takeWhile_map, List.dropWhile_map, List.map_map]
  unfold Event.Playable at playable
  unfold Event.cue Event.nestBehind
  cases subject : event.subject with
  | rule id =>
      rw [subject] at playable
      obtain ⟨stop, closed⟩ := playable
      simp only [closed, Option.getD_some, Cue.call?, here]
      exact ⟨.enter event, rfl, rfl⟩
  | token id =>
      rw [subject] at playable
      obtain ⟨lexeme, found⟩ := playable
      simp only [found, Cue.call?, here]
      exact ⟨.token event lexeme, by simp [found], rfl⟩

/-- The cues stand for the calls of the replay, which meets no fault. -/
theorem replayFrom_eq_cues {all : List Event} {lexemes : Array Lexeme} (events : List Event)
    (slot : Nat) (nest : List Opening) (placed : all.drop slot = events)
    (opened : ∀ opening ∈ nest, all[opening.slot]? = some opening.rule.event)
    (playable : ∀ event ∈ events, event.Playable lexemes) :
    (replayFrom lexemes (nest.map (·.rule)) events).fault = none ∧
      (cuesFrom slot nest events).map (·.call? all lexemes) =
        (replayFrom lexemes (nest.map (·.rule)) events).calls.map some := by
  induction events generalizing slot nest with
  | nil =>
      refine ⟨rfl, ?_⟩
      rw [cuesFrom, leaves_calls opened, replayFrom, List.map_map]
      simp
  | cons event rest ih =>
      have here : all[slot]? = some event := by
        rw [← List.head?_drop, placed, List.head?_cons]
      have onward : all.drop (slot + 1) = rest := by
        rw [← List.tail_drop, placed, List.tail_cons]
      have left : ∀ opening ∈ event.due nest, all[opening.slot]? = some opening.rule.event :=
        fun opening member => opened opening ((List.takeWhile_sublist _).subset member)
      have behind : ∀ opening ∈ event.nestBehind slot nest,
          all[opening.slot]? = some opening.rule.event := by
        intro opening member
        unfold Event.nestBehind at member
        split at member
        · rcases List.mem_cons.mp member with same | kept
          · rw [same]
            exact here
          · exact opened opening ((List.dropWhile_sublist _).subset kept)
        · exact opened opening ((List.dropWhile_sublist _).subset member)
      obtain ⟨call, stands, replayed⟩ :=
        replayFrom_cons nest rest here (playable event List.mem_cons_self)
      obtain ⟨faultless, calls⟩ := ih (slot + 1) (event.nestBehind slot nest) onward behind
        fun event member => playable event (List.mem_cons_of_mem _ member)
      rw [replayed]
      refine ⟨faultless, ?_⟩
      rw [cuesFrom, List.map_append, leaves_calls left, List.map_cons, stands, calls]
      simp [Replay.after]

theorem isLeave_cue (event : Event) (slot : Nat) : (event.cue slot).isLeave = false := by
  unfold Event.cue
  split <;> rfl

theorem filter_cuesFrom (slot : Nat) (nest : List Opening) (events : List Event) :
    (cuesFrom slot nest events).filter (!·.isLeave) =
      (events.zipIdx slot).map fun (event, slot) => event.cue slot := by
  have leaves : ∀ left : List Opening,
      (left.map fun opening => Cue.leave opening.slot).filter (!·.isLeave) = [] := by
    intro left
    simp [Cue.isLeave]
  induction events generalizing slot nest with
  | nil => exact leaves nest
  | cons event rest ih =>
      rw [cuesFrom, List.filter_append, leaves, List.nil_append,
        List.filter_cons_of_pos (by simp [isLeave_cue]), ih, List.zipIdx_cons, List.map_cons]

theorem slot_cue (event : Event) (slot : Nat) : (event.cue slot).slot = slot := by
  unfold Event.cue
  split <;> rfl

theorem slots_begun (events : List Event) :
    (events.zipIdx.map fun (event, slot) => event.cue slot).map Cue.slot =
      List.range' 0 events.length := by
  rw [List.map_map, ← List.zipIdx_map_snd]
  exact List.map_congr_left fun (event, slot) _ => slot_cue event slot

theorem nodup_begun (events : List Event) :
    (events.zipIdx.map fun (event, slot) => event.cue slot).Nodup := by
  have distinct : ((events.zipIdx.map fun (event, slot) => event.cue slot).map Cue.slot).Pairwise
      (· ≠ ·) := by
    rw [slots_begun]
    exact List.nodup_range'
  exact distinct.of_map Cue.slot fun left right differ same => differ (congrArg Cue.slot same)

/-- Calls that open and close like brackets where some rules are open, the last one entered
first. Each call stands in its shelter. -/
inductive Bracketed (shelter : Nat → List Nat) : List Nat → List Cue → Prop where
  | done : Bracketed shelter [] []
  | enter {slot : Nat} {nest : List Nat} {rest : List Cue} (here : nest = shelter slot)
      (inside : Bracketed shelter (slot :: nest) rest) :
      Bracketed shelter nest (.enter slot :: rest)
  | leave {slot : Nat} {nest : List Nat} {rest : List Cue} (here : nest = shelter slot)
      (behind : Bracketed shelter nest rest) :
      Bracketed shelter (slot :: nest) (.leave slot :: rest)
  | token {slot : Nat} {nest : List Nat} {rest : List Cue} (here : nest = shelter slot)
      (behind : Bracketed shelter nest rest) :
      Bracketed shelter nest (.token slot :: rest)

namespace Bracketed

variable {shelter : Nat → List Nat} {nest : List Nat} {cues front back : List Cue}

theorem count_leave (word : Bracketed shelter nest cues) (slot : Nat) :
    cues.count (.leave slot) = nest.count slot + cues.count (.enter slot) := by
  induction word with
  | done => rfl
  | enter _ _ ih =>
      simp [List.count_cons, ih]
      omega
  | leave _ _ ih => simp [List.count_cons, ih, Nat.add_right_comm]
  | token _ _ ih => simpa [List.count_cons] using ih

theorem mem_leave (word : Bracketed shelter nest cues) (slot : Nat) :
    .leave slot ∈ cues ↔ slot ∈ nest ∨ .enter slot ∈ cues := by
  have counted := word.count_leave slot
  rw [← List.count_pos_iff, ← List.count_pos_iff, ← List.count_pos_iff]
  omega

theorem step {cue : Cue} (word : Bracketed shelter nest (cue :: back)) :
    ∃ next, Bracketed shelter next back ∧ (∀ slot ∈ shelter cue.slot, slot ∈ nest) ∧
      ∀ slot, slot ∈ next ↔ slot ∈ shelter cue.slot ∨ .enter slot = cue := by
  cases word with
  | enter here inside =>
      refine ⟨_, inside, fun slot member => here ▸ member, fun slot => ?_⟩
      rw [List.mem_cons, here, Cue.slot, or_comm, Cue.enter.injEq]
  | leave here behind =>
      refine ⟨_, behind, fun slot member => ?_, fun slot => ?_⟩
      · exact List.mem_cons_of_mem _ (here ▸ member)
      · simp [here, Cue.slot]
  | token here behind =>
      refine ⟨_, behind, fun slot member => here ▸ member, fun slot => ?_⟩
      simp [here, Cue.slot]

theorem split (word : Bracketed shelter nest (front ++ back)) :
    ∃ kept, Bracketed shelter kept back ∧ ∀ slot ∈ kept, slot ∈ nest ∨ .enter slot ∈ front := by
  induction front generalizing nest with
  | nil => exact ⟨nest, word, fun slot member => .inl member⟩
  | cons cue rest ih =>
      obtain ⟨next, behind, inside, same⟩ := word.step
      obtain ⟨kept, last, later⟩ := ih behind
      refine ⟨kept, last, fun slot member => ?_⟩
      rcases later slot member with early | entered
      · rcases (same slot).mp early with before | now
        · exact .inl (inside slot before)
        · exact .inr (now ▸ List.mem_cons_self)
      · exact .inr (List.mem_cons_of_mem _ entered)

theorem enter_before_leave {slot : Nat}
    (word : Bracketed shelter [] (front ++ .leave slot :: back)) : .enter slot ∈ front := by
  obtain ⟨kept, behind, known⟩ := word.split
  cases behind with
  | leave _ _ =>
      rcases known slot List.mem_cons_self with absent | entered
      · cases absent
      · exact entered

theorem encloses {cue : Cue} (word : Bracketed shelter [] (front ++ cue :: back))
    (once : ((front ++ cue :: back).filter (!·.isLeave)).Nodup) (outer : Nat) :
    (.enter outer ∈ front ∧ .leave outer ∈ back) ↔ outer ∈ shelter cue.slot := by
  -- a rule that was entered before is not entered again
  have apart : .enter outer ∈ front → .enter outer ∉ cue :: back := by
    intro early late
    rw [List.filter_append, List.nodup_append] at once
    exact once.2.2 _ (List.mem_filter.mpr ⟨early, rfl⟩) _ (List.mem_filter.mpr ⟨late, rfl⟩) rfl
  obtain ⟨kept, middle, known⟩ := word.split
  obtain ⟨next, behind, inside, same⟩ := middle.step
  constructor
  · rintro ⟨early, late⟩
    rcases (behind.mem_leave outer).mp late with opened | again
    · rcases (same outer).mp opened with member | now
      · exact member
      · exact absurd (now ▸ List.mem_cons_self) (apart early)
    · exact absurd (List.mem_cons_of_mem _ again) (apart early)
  · intro member
    refine ⟨?_, (behind.mem_leave outer).mpr (.inl ((same outer).mpr (.inl member)))⟩
    rcases known outer (inside outer member) with absent | entered
    · cases absent
    · exact entered

end Bracketed

def Stacked (shelter : Nat → List Nat) : List Nat → Prop
  | [] => True
  | slot :: rest => rest = shelter slot ∧ Stacked shelter rest

theorem Stacked.of_append {shelter : Nat → List Nat} {front back : List Nat}
    (stacked : Stacked shelter (front ++ back)) : Stacked shelter back := by
  induction front with
  | nil => exact stacked
  | cons slot rest ih => exact ih stacked.2

theorem Bracketed.leaves {shelter : Nat → List Nat} {rest : List Cue} (front back : List Opening)
    (stacked : Stacked shelter ((front ++ back).map (·.slot)))
    (word : Bracketed shelter (back.map (·.slot)) rest) :
    Bracketed shelter ((front ++ back).map (·.slot))
      (front.map (fun opening => .leave opening.slot) ++ rest) := by
  induction front with
  | nil => exact word
  | cons opening front ih => exact .leave stacked.1 (ih stacked.2)

theorem cuesFrom_bracketed (shelter : Nat → List Nat) (events : List Event) (slot : Nat)
    (nest : List Opening)
    (known : ∀ index line, (sheltersFrom slot nest events)[index]? = some line →
      shelter (slot + index) = line.map (·.slot))
    (stacked : Stacked shelter (nest.map (·.slot))) :
    Bracketed shelter (nest.map (·.slot)) (cuesFrom slot nest events) := by
  induction events generalizing slot nest with
  | nil =>
      have leaving := Bracketed.leaves nest [] (by rwa [List.append_nil]) .done
      rwa [List.append_nil, List.append_nil] at leaving
  | cons event rest ih =>
      have parts : nest = event.due nest ++ event.shelter nest :=
        List.takeWhile_append_dropWhile.symm
      have here : (event.shelter nest).map (·.slot) = shelter slot :=
        (known 0 _ rfl).symm
      have later : ∀ index line,
          (sheltersFrom (slot + 1) (event.nestBehind slot nest) rest)[index]? = some line →
          shelter (slot + 1 + index) = line.map (·.slot) := by
        intro index line found
        rw [← known (index + 1) line found]
        congr 1
        omega
      have kept : Stacked shelter ((event.shelter nest).map (·.slot)) := by
        rw [parts, List.map_append] at stacked
        exact stacked.of_append
      have stackedBehind : Stacked shelter ((event.nestBehind slot nest).map (·.slot)) := by
        unfold Event.nestBehind
        split
        · exact ⟨here, kept⟩
        · exact kept
      have behind := ih (slot + 1) (event.nestBehind slot nest) later stackedBehind
      have first : Bracketed shelter ((event.shelter nest).map (·.slot))
          (event.cue slot :: cuesFrom (slot + 1) (event.nestBehind slot nest) rest) := by
        unfold Event.cue
        unfold Event.nestBehind at behind ⊢
        split at behind
        · exact .enter here behind
        · exact .token here behind
      have whole := Bracketed.leaves _ _ (parts ▸ stacked) first
      rwa [← parts] at whole

def shelterSlots (events : List Event) (slot : Nat) : List Nat :=
  ((sheltersFrom 0 [] events)[slot]?.getD []).map (·.slot)

theorem cues_bracketed (events : List Event) :
    Bracketed (shelterSlots events) [] (cuesFrom 0 [] events) := by
  refine cuesFrom_bracketed (shelterSlots events) events 0 [] ?_ trivial
  intro index line found
  rw [Nat.zero_add, shelterSlots, found, Option.getD_some]

theorem slot_lt_of_mem {events : List Event} {cue : Cue} (member : cue ∈ cuesFrom 0 [] events) :
    cue.slot < events.length := by
  have begun : ∀ cue ∈ cuesFrom 0 [] events, cue.isLeave = false →
      cue.slot < events.length := by
    intro cue member opens
    have kept : cue ∈ (cuesFrom 0 [] events).filter (!·.isLeave) :=
      List.mem_filter.mpr ⟨member, by simp [opens]⟩
    rw [filter_cuesFrom] at kept
    obtain ⟨⟨event, slot⟩, indexed, same⟩ := List.mem_map.mp kept
    rw [← same, slot_cue]
    exact List.snd_lt_of_mem_zipIdx indexed
  cases cue with
  | enter slot => exact begun _ member rfl
  | token slot => exact begun _ member rfl
  | leave slot =>
      -- what is left was entered, since nothing is open at first
      rcases ((cues_bracketed events).mem_leave slot).mp member with absent | entered
      · cases absent
      · exact begun (.enter slot) entered rfl

end TextGrammar
