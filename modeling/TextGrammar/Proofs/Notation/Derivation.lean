import TextGrammar.Proofs.Notation.Braces

/-!
What a rule body says. A body is one alternative or several with bars between them, an
alternative is one part or several behind one another, and a part is a name or a body in
parentheses, with any number of quantifiers behind it. Each quantifier repeats the part in
front of it. A level of parentheses shows this while it grows from left to right.
-/

namespace TextGrammar.Notation

namespace Phrase

def ofParts : List Phrase → Phrase
  | [part] => part
  | parts => .sequence parts

def ofAlternatives : List Phrase → Phrase
  | [alternative] => alternative
  | alternatives => .choice alternatives

def IsPart : Phrase → Prop
  | .reference _ | .group _ | .repeated _ _ => True
  | .sequence _ | .choice _ => False

def IsChoice : Phrase → Prop
  | .choice _ => True
  | .reference _ | .group _ | .repeated _ _ | .sequence _ => False

end Phrase

open Phrase (ofParts ofAlternatives)

/-- What marks can be, with what they say. -/
inductive Form where
  | part (phrase : Phrase)
  | parts (phrases : List Phrase)
  | alternatives (phrases : List Phrase)

/-- What marks say. -/
inductive Derives : List Mark → Form → Prop where
  | name {mark : Mark} (kind : mark.kind = .name) :
      Derives [mark] (.part (.reference (String.ofList mark.chars)))
  | group {opening closing : Mark} {inner : List Mark} {alternatives : List Phrase}
      (opens : opening.kind = .opening) (inside : Derives inner (.alternatives alternatives))
      (closes : closing.kind = .closing) :
      Derives (opening :: (inner ++ [closing])) (.part (.group (ofAlternatives alternatives)))
  | repeated {front : List Mark} {mark : Mark} {body : Phrase} {bounds : Bounds}
      (head : Derives front (.part body)) (quantifier : mark.Repeats bounds) :
      Derives (front ++ [mark]) (.part (.repeated bounds body))
  | onePart {marks : List Mark} {part : Phrase} (only : Derives marks (.part part)) :
      Derives marks (.parts [part])
  | nextPart {front back : List Mark} {parts : List Phrase} {part : Phrase}
      (earlier : Derives front (.parts parts)) (last : Derives back (.part part)) :
      Derives (front ++ back) (.parts (parts ++ [part]))
  | oneAlternative {marks : List Mark} {parts : List Phrase}
      (only : Derives marks (.parts parts)) : Derives marks (.alternatives [ofParts parts])
  | nextAlternative {front back : List Mark} {bar : Mark} {alternatives parts : List Phrase}
      (earlier : Derives front (.alternatives alternatives)) (bars : bar.kind = .bar)
      (last : Derives back (.parts parts)) :
      Derives (front ++ bar :: back) (.alternatives (alternatives ++ [ofParts parts]))

/-- How phrases nest in what marks say. -/
def Form.Proper : Form → Prop
  | .part phrase => phrase.IsPart
  | .parts phrases => phrases ≠ [] ∧ ∀ phrase ∈ phrases, phrase.IsPart
  | .alternatives phrases => phrases ≠ [] ∧ ∀ phrase ∈ phrases, ¬phrase.IsChoice

namespace Phrase

variable {part phrase : Phrase} {parts alternatives : List Phrase} {bounds : Bounds}

theorem IsPart.not_isChoice (isPart : phrase.IsPart) : ¬phrase.IsChoice := by
  cases phrase <;> simp_all [IsPart, IsChoice]

theorem ofParts_append (filled : parts ≠ []) :
    ofParts (parts ++ [part]) = .sequence (parts ++ [part]) := by
  obtain ⟨first, others, rfl⟩ := List.exists_cons_of_ne_nil filled
  cases others <;> rfl

theorem ofAlternatives_append (filled : alternatives ≠ []) :
    ofAlternatives (alternatives ++ [phrase]) = .choice (alternatives ++ [phrase]) := by
  obtain ⟨first, others, rfl⟩ := List.exists_cons_of_ne_nil filled
  cases others <;> rfl

theorem ofParts_not_isChoice (isPart : ∀ phrase ∈ parts, phrase.IsPart) :
    ¬(ofParts parts).IsChoice := by
  unfold ofParts
  split
  · next part => exact (isPart part List.mem_cons_self).not_isChoice
  · exact id

theorem IsPart.follow (isPart : phrase.IsPart) (part : Phrase) :
    phrase.follow part = .sequence [phrase, part] := by
  cases phrase <;> first | rfl | exact absurd isPart id

theorem IsPart.quantify (isPart : phrase.IsPart) (bounds : Bounds) :
    phrase.quantify bounds = .repeated bounds phrase := by
  cases phrase <;> first | rfl | exact absurd isPart id

theorem followLast_append (earlier : List Phrase) (last part : Phrase) :
    followLast (earlier ++ [last]) part = earlier ++ [last.follow part] := by
  induction earlier with
  | nil => rfl
  | cons first rest ih =>
      cases rest with
      | nil => rfl
      | cons second rest => exact congrArg (first :: ·) ih

theorem quantifyLast_append (earlier : List Phrase) (last : Phrase) (bounds : Bounds) :
    quantifyLast bounds (earlier ++ [last]) = earlier ++ [last.quantify bounds] := by
  induction earlier with
  | nil => rfl
  | cons first rest ih =>
      cases rest with
      | nil => rfl
      | cons second rest => exact congrArg (first :: ·) ih

theorem follow_ofParts (filled : parts ≠ []) (isPart : ∀ phrase ∈ parts, phrase.IsPart)
    (part : Phrase) : (ofParts parts).follow part = ofParts (parts ++ [part]) := by
  rw [ofParts_append filled]
  unfold ofParts
  split
  · next only => exact (isPart only List.mem_cons_self).follow part
  · rfl

theorem quantify_ofParts (earlier : List Phrase) (isPart : part.IsPart) (bounds : Bounds) :
    (ofParts (earlier ++ [part])).quantify bounds =
      ofParts (earlier ++ [.repeated bounds part]) := by
  cases earlier with
  | nil => exact isPart.quantify bounds
  | cons first others =>
      have filled := List.cons_ne_nil first others
      rw [ofParts_append filled, ofParts_append filled, quantify, quantifyLast_append,
        isPart.quantify]

theorem toChoice_of_not_isChoice (single : ¬phrase.IsChoice) :
    phrase.toChoice = .choice [phrase] := by
  cases phrase <;> first | rfl | exact absurd trivial single

end Phrase

theorem Derives.proper {marks : List Mark} {form : Form} (derives : Derives marks form) :
    form.Proper := by
  induction derives with
  | name | group | repeated => trivial
  | onePart _ ih =>
      refine ⟨List.cons_ne_nil _ _, fun phrase member => ?_⟩
      exact List.mem_singleton.mp member ▸ ih
  | nextPart _ _ ihEarlier ihLast =>
      refine ⟨by simp, fun phrase member => ?_⟩
      rcases List.mem_append.mp member with earlier | last
      · exact ihEarlier.2 phrase earlier
      · exact List.mem_singleton.mp last ▸ ihLast
  | oneAlternative _ ih =>
      exact ⟨List.cons_ne_nil _ _, by simpa using Phrase.ofParts_not_isChoice ih.2⟩
  | nextAlternative _ _ _ ihEarlier ihLast =>
      refine ⟨by simp, fun phrase member => ?_⟩
      rcases List.mem_append.mp member with earlier | last
      · exact ihEarlier.2 phrase earlier
      · exact List.mem_singleton.mp last ▸ Phrase.ofParts_not_isChoice ihLast.2

namespace Level

def fresh (bar : Nat) (done : List Phrase) : Level :=
  match done with
  | [] => .empty
  | _ => ⟨some (.choice done), some bar⟩

def closed (alternatives : List Phrase) : Level := ⟨some (ofAlternatives alternatives), none⟩

def filled (done parts : List Phrase) : Level := closed (done ++ [ofParts parts])

variable {done parts : List Phrase} {part : Phrase}

theorem push_fresh (bar : Nat) (part : Phrase) :
    (fresh bar done).push part = filled done [part] := by
  cases done with
  | nil => rfl
  | cons first others =>
      rw [filled, closed, Phrase.ofAlternatives_append (List.cons_ne_nil first others)]
      rfl

theorem push_closed (phrase part : Phrase) :
    (⟨some phrase, none⟩ : Level).push part = ⟨some (phrase.follow part), none⟩ := by
  cases phrase <;> rfl

theorem push_filled (some : parts ≠ []) (isPart : ∀ phrase ∈ parts, phrase.IsPart)
    (part : Phrase) : (filled done parts).push part = filled done (parts ++ [part]) := by
  rw [filled, closed, push_closed, filled, closed]
  congr 2
  cases done with
  | nil => exact Phrase.follow_ofParts some isPart part
  | cons first others =>
      have nonempty := List.cons_ne_nil first others
      rw [Phrase.ofAlternatives_append nonempty, Phrase.ofAlternatives_append nonempty,
        Phrase.follow, Phrase.followLast_append, Phrase.follow_ofParts some isPart]

theorem quantify_filled (isPart : part.IsPart) (bounds : Bounds) :
    (filled done (parts ++ [part])).quantify bounds =
      some (filled done (parts ++ [.repeated bounds part])) := by
  have quantified := Phrase.quantify_ofParts parts isPart bounds
  simp only [quantify, filled, closed]
  congr 3
  cases done with
  | nil => exact quantified
  | cons first others =>
      have nonempty := List.cons_ne_nil first others
      rw [Phrase.ofAlternatives_append nonempty, Phrase.ofAlternatives_append nonempty,
        Phrase.quantify, Phrase.quantifyLast_append, quantified]

theorem alternate_closed {alternatives : List Phrase} (nonempty : alternatives ≠ [])
    (single : ∀ phrase ∈ alternatives, ¬phrase.IsChoice) (bar : Nat) :
    (closed alternatives).alternate bar = some (fresh bar alternatives) := by
  match alternatives, nonempty with
  | [only], _ =>
      have wrapped := Phrase.toChoice_of_not_isChoice (single only List.mem_cons_self)
      exact congrArg (fun phrase => some (⟨some phrase, some bar⟩ : Level)) wrapped
  | first :: second :: rest, _ => rfl

theorem quantify_fresh (bar : Nat) (bounds : Bounds) : (fresh bar done).quantify bounds = none := by
  cases done <;> rfl

theorem alternate_fresh (bar offset : Nat) : (fresh bar done).alternate offset = none := by
  cases done <;> rfl

end Level

end TextGrammar.Notation
