import TextGrammar.Matching.Event

/-!
Watched matches as a forest. The matches of tokens and rules that follow one another are
side by side, and what a watched rule covers is inside it. The events of a forest list it
from left to right, a rule before what is inside it; where the spans of a forest fit into
one another, the list shows the nesting.
-/

namespace TextGrammar

/-- The watched matches in a stretch of lexemes, the first one in front of the rest. -/
inductive Forest where
  | nil
  | token (id : TokenId) (start : Nat) (rest : Forest)
  /-- A rule from `start` up to `stop`, with the matches inside it. -/
  | rule (id : RuleId) (start stop : Nat) (inner rest : Forest)
  deriving DecidableEq, Repr

namespace Forest

def append : Forest → Forest → Forest
  | .nil, after => after
  | .token id start rest, after => .token id start (rest.append after)
  | .rule id start stop inner rest, after => .rule id start stop inner (rest.append after)

def events : Forest → List Event
  | .nil => []
  | .token id start rest => .token id start :: rest.events
  | .rule id start stop inner rest =>
      ⟨.rule id, start, some stop⟩ :: (inner.events ++ rest.events)

/-- Whether the matches of a forest fit between two positions: each begins where the one
before it ends or later, and those inside a rule fit into the rule. -/
def Spans : Forest → Nat → Nat → Prop
  | .nil, start, stop => start ≤ stop
  | .token _ place rest, start, stop => start ≤ place ∧ rest.Spans (place + 1) stop
  | .rule _ first last inner rest, start, stop =>
      start ≤ first ∧ inner.Spans first last ∧ rest.Spans last stop

theorem events_append (left right : Forest) :
    (left.append right).events = left.events ++ right.events := by
  induction left with
  | nil => rfl
  | token id start rest ih => simp [append, events, ih]
  | rule id start stop inner rest _ ih => simp [append, events, ih]

theorem Spans.le {forest : Forest} {start stop : Nat} (spans : forest.Spans start stop) :
    start ≤ stop := by
  induction forest generalizing start stop with
  | nil => exact spans
  | token id place rest ih => have := ih spans.2; have := spans.1; omega
  | rule id first last inner rest ihInner ihRest =>
      obtain ⟨before, inside, behind⟩ := spans
      have := ihInner inside
      have := ihRest behind
      omega

theorem Spans.append {left right : Forest} {start middle stop : Nat}
    (here : left.Spans start middle) (there : right.Spans middle stop) :
    (left.append right).Spans start stop := by
  induction left generalizing start with
  | nil =>
      -- nothing is in front, so the right forest may begin earlier
      cases right with
      | nil => exact Nat.le_trans here there
      | token id place rest => exact ⟨Nat.le_trans here there.1, there.2⟩
      | rule id first last inner rest => exact ⟨Nat.le_trans here there.1, there.2⟩
  | token id place rest ih => exact ⟨here.1, ih here.2⟩
  | rule id first last inner rest _ ih => exact ⟨here.1, here.2.1, ih here.2.2⟩

end Forest

namespace Event

def Within (start stop : Nat) (event : Event) : Prop :=
  match event.subject with
  | .token _ => event.stop = none ∧ start ≤ event.start ∧ event.start < stop
  | .rule _ =>
      ∃ last, event.stop = some last ∧ start ≤ event.start ∧ event.start ≤ last ∧ last ≤ stop

/-- Two rules, one recorded before the other, are nested or follow one another. -/
def Nests (earlier later : Event) : Prop :=
  ∀ first last, earlier.stop = some first → later.stop = some last →
    (earlier.start ≤ later.start ∧ last ≤ first) ∨ first ≤ later.start

theorem Within.widen {event : Event} {start stop first last : Nat}
    (within : event.Within start stop) (left : first ≤ start) (right : stop ≤ last) :
    event.Within first last := by
  unfold Within at within ⊢
  split at within
  · exact ⟨within.1, by omega, by omega⟩
  · obtain ⟨upTo, closed, before, ordered, behind⟩ := within
    exact ⟨upTo, closed, by omega, ordered, by omega⟩

theorem Within.start_le {event : Event} {start stop : Nat} (within : event.Within start stop) :
    start ≤ event.start := by
  unfold Within at within
  split at within
  · exact within.2.1
  · obtain ⟨_, _, before, _⟩ := within
    exact before

theorem Within.le_stop {event : Event} {start stop : Nat} (within : event.Within start stop) :
    event.start ≤ stop := by
  unfold Within at within
  split at within
  · exact Nat.le_of_lt within.2.2
  · obtain ⟨_, _, _, ordered, behind⟩ := within
    exact Nat.le_trans ordered behind

theorem Within.stop_le {event : Event} {start stop last : Nat}
    (within : event.Within start stop) (closed : event.stop = some last) : last ≤ stop := by
  unfold Within at within
  split at within
  · rw [within.1] at closed; contradiction
  · obtain ⟨upTo, found, _, _, behind⟩ := within
    rw [found, Option.some.injEq] at closed
    exact closed ▸ behind

end Event

namespace Forest

theorem Spans.within {forest : Forest} {start stop : Nat} (spans : forest.Spans start stop) :
    ∀ event ∈ forest.events, event.Within start stop := by
  induction forest generalizing start stop with
  | nil => intro event member; cases member
  | token id place rest ih =>
      intro event member
      have reach := spans.2.le
      rcases List.mem_cons.mp member with same | later
      · subst event
        exact ⟨rfl, spans.1, by simp only [Event.token]; omega⟩
      · have before := spans.1
        exact (ih spans.2 event later).widen (by omega) (Nat.le_refl _)
  | rule id first last inner rest ihInner ihRest =>
      intro event member
      obtain ⟨before, inside, behind⟩ := spans
      have reach := inside.le
      have extent := behind.le
      rcases List.mem_cons.mp member with same | later
      · subst event
        exact ⟨last, rfl, before, reach, extent⟩
      · rcases List.mem_append.mp later with enclosed | following
        · exact (ihInner inside event enclosed).widen before extent
        · exact (ihRest behind event following).widen (by omega) (Nat.le_refl _)

theorem Spans.pairwise_start {forest : Forest} {start stop : Nat}
    (spans : forest.Spans start stop) :
    forest.events.Pairwise fun earlier later => earlier.start ≤ later.start := by
  induction forest generalizing start stop with
  | nil => exact .nil
  | token id place rest ih =>
      refine List.pairwise_cons.mpr ⟨?_, ih spans.2⟩
      intro event member
      exact Nat.le_of_succ_le (spans.2.within event member).start_le
  | rule id first last inner rest ihInner ihRest =>
      obtain ⟨-, inside, behind⟩ := spans
      refine List.pairwise_cons.mpr ⟨?_, ?_⟩
      · intro event member
        rcases List.mem_append.mp member with enclosed | following
        · exact (inside.within event enclosed).start_le
        · exact Nat.le_trans inside.le (behind.within event following).start_le
      · refine List.pairwise_append.mpr ⟨ihInner inside, ihRest behind, ?_⟩
        intro earlier enclosed later following
        exact Nat.le_trans (inside.within earlier enclosed).le_stop
          (behind.within later following).start_le

theorem Spans.pairwise_nests {forest : Forest} {start stop : Nat}
    (spans : forest.Spans start stop) : forest.events.Pairwise Event.Nests := by
  induction forest generalizing start stop with
  | nil => exact .nil
  | token id place rest ih =>
      refine List.pairwise_cons.mpr ⟨?_, ih spans.2⟩
      intro event _ first last unclosed
      cases unclosed
  | rule id first last inner rest ihInner ihRest =>
      obtain ⟨-, inside, behind⟩ := spans
      refine List.pairwise_cons.mpr ⟨?_, ?_⟩
      · intro event member _ upTo same closed
        cases same
        rcases List.mem_append.mp member with enclosed | following
        · have within := inside.within event enclosed
          exact .inl ⟨within.start_le, within.stop_le closed⟩
        · exact .inr (behind.within event following).start_le
      · refine List.pairwise_append.mpr ⟨ihInner inside, ihRest behind, ?_⟩
        intro earlier enclosed later following upTo _ closed _
        exact .inr (Nat.le_trans ((inside.within earlier enclosed).stop_le closed)
          (behind.within later following).start_le)

end Forest

end TextGrammar
