import TextGrammar.Notation.Bounds

/-!
Phrases: what a rule body says, before its names are looked up. A phrase is shown as
nested lists, each with its kind in front.
-/

namespace TextGrammar.Notation

inductive Phrase where
  | reference (name : String)
  | group (inner : Phrase)
  | repeated (bounds : Bounds) (body : Phrase)
  | sequence (parts : List Phrase)
  | choice (alternatives : List Phrase)
  deriving Repr

mutual

def Phrase.text : Phrase → String
  | .reference name => name
  | .group inner => "(group " ++ inner.text ++ ")"
  | .repeated bounds body => "(occur " ++ bounds.text ++ " " ++ body.text ++ ")"
  | .sequence parts => "(seq" ++ Phrase.texts parts ++ ")"
  | .choice alternatives => "(alt" ++ Phrase.texts alternatives ++ ")"

def Phrase.texts : List Phrase → String
  | [] => ""
  | part :: rest => " " ++ part.text ++ Phrase.texts rest

end

end TextGrammar.Notation
