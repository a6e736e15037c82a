import TextGrammar.Grammar.Parse
import TextGrammar.Proofs.Matching.Observation
import TextGrammar.Proofs.Replay.Selection

/-!
Drawing a replay as an outline. There is a line for each event, in order: the name of a rule, or
that of a token with its text. Each line stands as deep as there are rules open, so a rule that is
left must have been entered; and each has the name of a rule or a token, so there must be one. For
the calls of an accepted run both is so.
-/

namespace TextGrammar

def RuleTable.lexemeCaption? (table : RuleTable) (lexeme : Lexeme) : Option String :=
  (table.lexicon.name? lexeme.id).map fun name => name ++ " " ++ Text.quoted lexeme.text

def Event.caption? (table : RuleTable) (lexemes : Array Lexeme) (event : Event) : Option String :=
  match event.subject with
  | .rule id => (table.rule? id).map (·.name)
  | .token _ => lexemes[event.start]?.bind table.lexemeCaption?

theorem Event.caption?_rule {table : RuleTable} {lexemes : Array Lexeme} {event : Event}
    {id : RuleId} (about : event.subject = .rule id) :
    event.caption? table lexemes = (table.rule? id).map (·.name) := by
  simp only [caption?, about]

theorem Event.caption?_token {table : RuleTable} {lexemes : Array Lexeme} {event : Event}
    {id : TokenId} {lexeme : Lexeme} (about : event.subject = .token id)
    (found : lexemes[event.start]? = some lexeme) :
    event.caption? table lexemes = table.lexemeCaption? lexeme := by
  simp only [caption?, about, found, Option.bind_some]

section Lines

variable {table : RuleTable} {name : String}

theorem outlineFrom_enter {event : Event} {id : RuleId} (about : event.ruleId? = some id)
    (named : table.ruleName id = .ok name) (depth : Nat) (rest : List Call) :
    outlineFrom table depth (.enter event :: rest) =
      (outlineFrom table (depth + 1) rest).map (indented depth name :: ·) := by
  simp only [outlineFrom, about, named]

theorem outlineFrom_token {lexeme : Lexeme} (named : table.tokenName lexeme.id = .ok name)
    (event : Event) (depth : Nat) (rest : List Call) :
    outlineFrom table depth (.token event lexeme :: rest) =
      (outlineFrom table depth rest).map
        (indented depth (name ++ " " ++ Text.quoted lexeme.text) :: ·) := by
  simp only [outlineFrom, named]

end Lines

/-- The depth behind some calls, unless more rules are left than were entered. -/
def depthBehind : Nat → List Call → Option Nat
  | depth, [] => some depth
  | depth, .enter _ :: rest => depthBehind (depth + 1) rest
  | 0, .leave _ :: _ => none
  | depth + 1, .leave _ :: rest => depthBehind depth rest
  | depth, .token _ _ :: rest => depthBehind depth rest

/-- Whether some calls come to certain lines, and all that is open is left in the end. -/
structure Prints (table : RuleTable) (depth : Nat) (calls : List Call)
    (lines : List (Option String)) : Prop where
  lines : ∃ drawn, outlineFrom table depth calls = .ok drawn ∧ drawn.map some = lines
  level : depthBehind depth calls = some 0

namespace Prints

variable {table : RuleTable} {depth : Nat} {rest : List Call} {lines : List (Option String)}

theorem leaves (due : List Opening) (prints : Prints table depth rest lines) :
    Prints table (due.length + depth)
      ((due.map fun opening => .leave opening.rule.event) ++ rest) lines := by
  induction due with
  | nil => simpa using prints
  | cons opening others ih =>
      rw [List.length_cons, Nat.add_right_comm]
      exact ⟨ih.lines, ih.level⟩

theorem enter {event : Event} {id : RuleId} {rule : Rule} (about : event.subject = .rule id)
    (declared : table.rule? id = some rule) (prints : Prints table (depth + 1) rest lines) :
    Prints table depth (.enter event :: rest) (some (indented depth rule.name) :: lines) where
  lines := by
    have told : event.ruleId? = some id := by simp [Event.ruleId?, about]
    obtain ⟨drawn, later, same⟩ := prints.lines
    refine ⟨indented depth rule.name :: drawn, ?_, by rw [List.map_cons, same]⟩
    rw [outlineFrom_enter told (RuleTable.ruleName_of_rule? declared), later, Except.map]
  level := prints.level

theorem token {event : Event} {lexeme : Lexeme} {name : String}
    (named : table.lexicon.name? lexeme.id = some name) (prints : Prints table depth rest lines) :
    Prints table depth (.token event lexeme :: rest)
      (some (indented depth (name ++ " " ++ Text.quoted lexeme.text)) :: lines) where
  lines := by
    obtain ⟨drawn, later, same⟩ := prints.lines
    refine ⟨indented depth (name ++ " " ++ Text.quoted lexeme.text) :: drawn, ?_,
      by rw [List.map_cons, same]⟩
    rw [outlineFrom_token (RuleTable.tokenName_of_name? named), later, Except.map]
  level := prints.level

end Prints

theorem Prints.event {table : RuleTable} {lexemes : Array Lexeme} {slot : Nat}
    {nest : List Opening} {event : Event} {later : List Event} {lines : List (Option String)}
    (playable : event.Playable lexemes) (named : (event.caption? table lexemes).isSome)
    (onward : Prints table (event.nestBehind slot nest).length
      (replayFrom lexemes ((event.nestBehind slot nest).map (·.rule)) later).calls lines) :
    Prints table nest.length (replayFrom lexemes (nest.map (·.rule)) (event :: later)).calls
      ((event.caption? table lexemes).map (indented (event.shelter nest).length) :: lines) := by
  -- the rules that are due are left, and the line stands as deep as those that stay open
  have parted : nest.length = (event.due nest).length + (event.shelter nest).length := by
    rw [← List.length_append, Event.due, Event.shelter, List.takeWhile_append_dropWhile]
  rw [parted, replayFrom, List.takeWhile_map, List.dropWhile_map, List.map_map]
  unfold Event.Playable at playable
  cases about : event.subject with
  | rule id =>
      have behind : event.nestBehind slot nest =
          ⟨slot, event, event.stop.getD event.start⟩ :: event.shelter nest := by
        simp only [Event.nestBehind, about]
      rw [about] at playable
      obtain ⟨stop, closed⟩ := playable
      rw [Event.caption?_rule about] at named ⊢
      obtain ⟨rule, declared⟩ := Option.isSome_iff_exists.mp (Option.isSome_map ▸ named)
      rw [behind, closed, Option.getD_some] at onward
      simp only [closed, declared, Option.map_some, Replay.calls_after, List.append_assoc,
        List.singleton_append]
      exact .leaves _ (.enter about declared onward)
  | token id =>
      have behind : event.nestBehind slot nest = event.shelter nest := by
        simp only [Event.nestBehind, about]
      rw [about] at playable
      obtain ⟨lexeme, found⟩ := playable
      rw [Event.caption?_token about found, RuleTable.lexemeCaption?] at named ⊢
      obtain ⟨name, told⟩ := Option.isSome_iff_exists.mp (Option.isSome_map ▸ named)
      rw [behind] at onward
      simp only [found, told, Option.map_some, Replay.calls_after, List.append_assoc,
        List.singleton_append]
      exact .leaves _ (.token told onward)

theorem prints_replayFrom {table : RuleTable} {lexemes : Array Lexeme} (slot : Nat)
    (nest : List Opening) (events : List Event)
    (playable : ∀ event ∈ events, event.Playable lexemes)
    (named : ∀ event ∈ events, (event.caption? table lexemes).isSome) :
    Prints table nest.length (replayFrom lexemes (nest.map (·.rule)) events).calls
      (List.zipWith (fun event shelter =>
        (event.caption? table lexemes).map (indented shelter.length)) events
          (sheltersFrom slot nest events)) := by
  induction events generalizing slot nest with
  | nil =>
      have none : Prints table 0 [] [] := ⟨⟨[], rfl, rfl⟩, rfl⟩
      have left := none.leaves nest
      rw [List.append_nil, Nat.add_zero] at left
      rw [replayFrom, List.map_map]
      exact left
  | cons event later ih =>
      obtain ⟨here, others⟩ := List.forall_mem_cons.mp playable
      obtain ⟨known, captions⟩ := List.forall_mem_cons.mp named
      rw [sheltersFrom, List.zipWith_cons_cons]
      exact .event here known (ih (slot + 1) (event.nestBehind slot nest) others captions)

section Captions

variable {table : RuleTable} {lexemes : Array Lexeme}

theorem Event.caption?_isSome {event : Event}
    (watched : (Watch.all table).watches event.subject = true)
    (lexeme : ∀ id, event.subject = .token id →
      ∃ lexeme, lexemes[event.start]? = some lexeme ∧ lexeme.id = id) :
    (event.caption? table lexemes).isSome := by
  cases about : event.subject with
  | rule id =>
      rw [about, Watch.watches, Watch.watchesRule_all] at watched
      rwa [caption?_rule about, Option.isSome_map]
  | token id =>
      obtain ⟨lexeme, found, rfl⟩ := lexeme id about
      rw [about, Watch.watches, Watch.watchesToken_all] at watched
      rwa [caption?_token about found, RuleTable.lexemeCaption?, Option.isSome_map]

theorem captions_taken (labelled : table.lexicon.Labels lexemes) (cursor : Nat) :
    ((List.range cursor).filterMap ((Watch.all table).tokenEvent? lexemes)).map
        (·.caption? table lexemes) =
      (lexemes.toList.take cursor).map table.lexemeCaption? := by
  induction cursor with
  | zero => rfl
  | succ cursor ih =>
      rw [List.range_succ, List.filterMap_append, List.map_append, ih, List.take_add_one,
        List.map_append]
      congr 1
      cases found : lexemes[cursor]? with
      | none => simp [Watch.tokenEvent?, found]
      | some lexeme =>
          obtain ⟨name, known⟩ := labelled lexeme (Array.mem_of_getElem? found)
          have watched : (Watch.all table).watchesToken lexeme.id = true := by
            rw [Watch.watchesToken_all, known]
            rfl
          have event : (Watch.all table).tokenEvent? lexemes cursor =
              some (.token lexeme.id cursor) := by
            simp [Watch.tokenEvent?, found, watched]
          have caption : (Event.token lexeme.id cursor).caption? table lexemes =
              table.lexemeCaption? lexeme := Event.caption?_token rfl found
          simp [event, caption, found]

end Captions

/-- Whether some lines show a forest. There is one for each event, in order, with two blanks in
front for each rule that the event was matched in and that ends behind where the event begins. The
lines of tokens show the lexemes up to a cursor. -/
structure Outlines (table : RuleTable) (lexemes : List Lexeme) (cursor : Nat) (forest : Forest)
    (lines : List String) : Prop where
  reach : cursor ≤ lexemes.length
  counted : lines.length = forest.events.length
  shown : lines.map some = List.zipWith (fun event line =>
    (event.caption? table lexemes.toArray).map (indented (event.covering line).length))
      forest.events (forest.lineages [] 0)
  tokens : (forest.events.filter (·.tokenId?.isSome)).map (·.caption? table lexemes.toArray) =
    (lexemes.take cursor).map table.lexemeCaption?

theorem Forest.Faithful.prints {table : RuleTable} {lexemes : Array Lexeme} {forest : Forest}
    {cursor : Nat} (faithful : forest.Faithful (.all table) lexemes 0 cursor) :
    Prints table 0 (replayFrom lexemes [] forest.events).calls
      (List.zipWith (fun event shelter =>
        (event.caption? table lexemes).map (indented shelter.length)) forest.events
          (sheltersFrom 0 [] forest.events)) := by
  apply prints_replayFrom 0 [] forest.events faithful.playable
  exact fun event member => Event.caption?_isSome (faithful.watched event member)
    (faithful.lexeme event member)

/-- The calls of an accepted run that records everything can be drawn. -/
theorem Recognizer.run_drawn {r : Recognizer} (watch : r.watch = .all r.table) {id : RuleId}
    {journal : Option (Array Step)} {after : Progress}
    (accepted : r.run id journal = ⟨.matched, after⟩) :
    ∃ lines, outlineFrom r.table 0 (after.trail.replay r.lexemes).calls = .ok lines := by
  obtain ⟨forest, found, listed⟩ := run_finds accepted
  have faithful : forest.Faithful r.watch r.lexemes 0 after.cursor := found.faithful
  rw [watch] at faithful
  obtain ⟨lines, drawn, -⟩ := faithful.prints.lines
  rw [← listed] at drawn
  exact ⟨lines, drawn⟩

theorem Forest.Faithful.outlines {table : RuleTable} {lexemes : List Lexeme} {forest : Forest}
    {cursor : Nat} (faithful : forest.Faithful (.all table) lexemes.toArray 0 cursor)
    (labelled : table.lexicon.Labels lexemes.toArray) :
    ∃ lines, outlineFrom table 0 (replayFrom lexemes.toArray [] forest.events).calls = .ok lines ∧
      Outlines table lexemes cursor forest lines ∧
      depthBehind 0 (replayFrom lexemes.toArray [] forest.events).calls = some 0 := by
  have prints := faithful.prints
  obtain ⟨behind, -, sheltered⟩ := faithful.spans.shelters 0 [] [] ⟨rfl, .nil⟩ (by simp)
  have shelters := sheltered []
  rw [List.append_nil, sheltersFrom, List.append_nil] at shelters
  rw [shelters] at prints
  obtain ⟨lines, drawn, shown⟩ := prints.lines
  rw [List.zipWith_zipWith_right, List.zipWith3_same_left] at shown
  refine ⟨lines, drawn, ⟨?_, ?_, shown, ?_⟩, prints.level⟩
  · have inside := faithful.inside
    rwa [Nat.zero_max, List.size_toArray] at inside
  · have counted := congrArg List.length shown
    rwa [List.length_map, List.length_zipWith, Forest.length_lineages, Nat.min_self] at counted
  · rw [faithful.tokens, Nat.sub_zero, ← List.range_eq_range', captions_taken labelled]

end TextGrammar
