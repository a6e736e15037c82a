import TextGrammar.Pattern.Basic

/-!
The preferred match of a pattern at the start of a text. A search keeps a list of
agendas, the preferred one first; an agenda is what is still to be matched, part by part.
Between two characters every agenda is opened up until it waits for a character, and an
agenda met a second time there is dropped, which is what ends repetitions that take no
text. An agenda with nothing left is a match, and those less preferred are dropped.
-/

namespace TextGrammar.Pattern

abbrev Agenda := List Pattern

structure View where
  before : Option Char
  rest : List Char

namespace Anchor

def wordBefore (view : View) : Bool := view.before.any Unicode.isWordChar

def wordAfter (view : View) : Bool := view.rest.head?.any Unicode.isWordChar

def holds (anchor : Anchor) (view : View) : Bool :=
  match anchor with
  | textStart => view.before.isNone
  | textEnd => view.rest.isEmpty
  | lineStart => view.before.isNone || view.before == some '\n'
  | lineEnd => view.rest.isEmpty || view.rest.head? == some '\n'
  | returnLineStart =>
      view.before.isNone || view.before == some '\n' ||
        (view.before == some '\r' && view.rest.head? != some '\n')
  | returnLineEnd =>
      view.rest.isEmpty || view.rest.head? == some '\r' ||
        (view.rest.head? == some '\n' && view.before != some '\r')
  | wordBoundary => wordBefore view != wordAfter view
  | noWordBoundary => wordBefore view == wordAfter view
  | wordStart => !wordBefore view && wordAfter view
  | wordEnd => wordBefore view && !wordAfter view
  | wordStartHalf => !wordBefore view
  | wordEndHalf => !wordAfter view

end Anchor

/-- What a place has in stock: the agendas that wait for a character, the preferred one
first, and whether a match ends here that is preferred to all that were dropped. -/
structure Front where
  waiting : List (CharSet × Agenda)
  accepted : Bool

def either (greedy : Bool) (onward stop : Agenda) (others : List Agenda) : List Agenda :=
  if greedy then onward :: stop :: others else stop :: onward :: others

/-- Replaces the first part of an agenda by the agendas that it opens up to. `none` stands
for an agenda that waits for a character. -/
def openUp (view : View) (part : Pattern) (later : Agenda) (others : List Agenda) :
    Option (List Agenda) :=
  match part with
  | .empty => some (later :: others)
  | .set _ => none
  | .anchor condition => some (if condition.holds view then later :: others else others)
  | .sequence first second => some ((first :: second :: later) :: others)
  | .choice first second => some ((first :: later) :: (second :: later) :: others)
  | .times 0 _ => some (later :: others)
  | .times (count + 1) body => some ((body :: .times count body :: later) :: others)
  | .upTo 0 _ _ => some (later :: others)
  | .upTo (count + 1) greedy body =>
      some (either greedy (body :: .upTo count greedy body :: later) later others)
  | .star greedy body | .more greedy body =>
      some (either greedy (body :: .more greedy body :: later) later others)

/-- Opens up agendas in order of preference until each waits for a character. `met` holds
those that were opened up before, and `effort` bounds the number of steps. -/
def explore (view : View) : Nat → List Agenda → List Agenda → Front
  | 0, _, _ => ⟨[], false⟩
  | _ + 1, _, [] => ⟨[], false⟩
  | _ + 1, _, [] :: _ => ⟨[], true⟩
  | effort + 1, met, (part :: later) :: others =>
      if met.contains (part :: later) then explore view effort met others
      else
        let met := (part :: later) :: met
        match openUp view part later others with
        | some agendas => explore view effort met agendas
        | none =>
            let front := explore view effort met others
            match part with
            | .set members => ⟨(members, later) :: front.waiting, front.accepted⟩
            | _ => front

def advance (c : Char) (waiting : List (CharSet × Agenda)) : List Agenda :=
  waiting.filterMap fun (members, later) => if members.contains c then some later else none

/-- Goes on with a search after `count` characters, `best` being the preferred match so
far. A match met later is preferred, since what is less preferred was dropped. -/
def searchFrom (effort : Nat) (agendas : List Agenda) (before : Option Char)
    (count : Nat) (best : Option Nat) : List Char → Option Nat
  | [] =>
      if (explore ⟨before, []⟩ effort [] agendas).accepted then some count else best
  | c :: rest =>
      let front := explore ⟨before, c :: rest⟩ effort [] agendas
      let best := if front.accepted then some count else best
      match advance c front.waiting with
      | [] => best
      | next => searchFrom effort next (some c) (count + 1) best rest

def matchLength? (pattern : Pattern) (text : List Char) : Option Nat :=
  searchFrom (4 * pattern.places + 4) [[pattern]] none 0 none text

theorem searchFrom_le (effort : Nat) (agendas : List Agenda) (before : Option Char)
    (count : Nat) (best : Option Nat) (text : List Char)
    (bounded : ∀ found, best = some found → found ≤ count + text.length) :
    ∀ found, searchFrom effort agendas before count best text = some found →
      found ≤ count + text.length := by
  induction text generalizing agendas before count best with
  | nil =>
      intro found result
      simp only [searchFrom] at result
      split at result
      · cases result
        exact Nat.le_refl _
      · exact bounded found result
  | cons c rest ih =>
      intro found result
      simp only [searchFrom] at result
      have kept : ∀ accepted : Bool, ∀ found,
          (if accepted then some count else best) = some found →
            found ≤ count + (c :: rest).length := by
        intro accepted found here
        cases accepted with
        | true => cases here; exact Nat.le_add_right _ _
        | false => exact bounded found here
      split at result
      · exact kept _ found result
      · have shifted := ih _ _ (count + 1) _ (by
          intro found here
          have := kept _ found here
          simp only [List.length_cons] at this
          omega) found result
        simp only [List.length_cons]
        omega

theorem matchLength?_le {pattern : Pattern} {text : List Char} {count : Nat}
    (found : matchLength? pattern text = some count) : count ≤ text.length := by
  have := searchFrom_le _ _ _ 0 none text (by intro _ absurd; cases absurd) count found
  omega

end TextGrammar.Pattern
