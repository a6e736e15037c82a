import TextGrammar.Proofs.Notation.ListText
import TextGrammar.Proofs.Rules.Compilation

/-!
How phrases and matchers are shown. Both are shown as nested lists whose words are names and bounds.
Where the names are spelled as names are in a rule's body, no two phrases are shown alike, nor are
two matchers of one table: a name is not taken for a list, even if it is the head of one, and angle
brackets keep the names of rules apart from those of tokens.
-/

namespace TextGrammar

open Notation (Phrase Bounds ListText ListKind IsWord Spells isPlain isPlain_of_isNameChar
  isNameChar)

def IsName (name : String) : Prop := Spells (some .name) name.toList

namespace IsName

variable {name : String}

theorem letters (named : IsName name) : ∃ first rest, first.isAlpha = true ∧
    (∀ c ∈ rest, isNameChar c = true) ∧ name.toList = first :: rest := by
  unfold IsName at named
  generalize name.toList = chars at named ⊢
  cases named with
  | name letter more => exact ⟨_, _, letter, more, rfl⟩

theorem isWord (named : IsName name) : IsWord name.toList where
  filled := named.filled
  plain c there := by
    obtain ⟨first, rest, letter, more, same⟩ := named.letters
    rw [same] at there
    rcases List.mem_cons.mp there with rfl | later
    · exact isPlain_of_isNameChar (by simp [isNameChar, Char.isAlphanum, letter])
    · exact isPlain_of_isNameChar (more c later)

theorem ne_bracketed (named : IsName name) (other : String) : name ≠ "<" ++ other ++ ">" := by
  rintro rfl
  obtain ⟨first, rest, letter, -, same⟩ := named.letters
  rw [String.toList_append, String.toList_append] at same
  cases same
  cases letter

theorem isWord_bracketed (named : IsName name) : IsWord ("<" ++ name ++ ">").toList where
  filled := by simp
  plain := by
    have opening : isPlain '<' = true := by decide
    have closing : isPlain '>' = true := by decide
    simpa [or_imp, forall_and, opening, closing] using named.isWord.plain

end IsName

namespace Notation.Phrase

mutual

def listText : Phrase → ListText
  | .reference name => .word name
  | .group inner => .list .group [inner.listText]
  | .repeated bounds body => .repeated bounds body.listText
  | .sequence parts => .list .sequence (allListText parts)
  | .choice alternatives => .list .choice (allListText alternatives)

def allListText : List Phrase → List ListText
  | [] => []
  | part :: rest => part.listText :: allListText rest

end

mutual

theorem toList_text (phrase : Phrase) : phrase.text.toList = phrase.listText.chars := by
  cases phrase with
  | reference name => rfl
  | group inner =>
      simp [text, listText, ListText.chars, ListKind.head, ListText.allChars, toList_text inner]
  | repeated bounds body =>
      rw [text, listText, ListText.chars_repeated]
      simp [toList_text body]
  | sequence parts => simp [text, listText, ListText.chars, ListKind.head, toList_texts parts]
  | choice alternatives =>
      simp [text, listText, ListText.chars, ListKind.head, toList_texts alternatives]

theorem toList_texts (phrases : List Phrase) :
    (texts phrases).toList = ListText.allChars (allListText phrases) := by
  cases phrases with
  | nil => rfl
  | cons phrase rest =>
      simp [texts, allListText, ListText.allChars, toList_text phrase, toList_texts rest]

end

mutual

theorem legible_listText (phrase : Phrase) (named : ∀ name ∈ phrase.names, IsName name) :
    phrase.listText.Legible := by
  cases phrase with
  | reference name => exact (named name List.mem_cons_self).isWord
  | group inner => exact ⟨legible_listText inner named, trivial⟩
  | repeated bounds body => exact ListText.legible_repeated (legible_listText body named)
  | sequence parts => exact legible_allListText parts named
  | choice alternatives => exact legible_allListText alternatives named

theorem legible_allListText (phrases : List Phrase)
    (named : ∀ name ∈ allNames phrases, IsName name) :
    ListText.AllLegible (allListText phrases) := by
  cases phrases with
  | nil => trivial
  | cons phrase rest =>
      obtain ⟨first, others⟩ := List.forall_mem_append.mp named
      exact ⟨legible_listText phrase first, legible_allListText rest others⟩

end

mutual

theorem listText_inj (phrase other : Phrase) (same : phrase.listText = other.listText) :
    phrase = other := by
  cases phrase with
  | reference name =>
      cases other with
      | reference _ => exact congrArg _ (ListText.word.inj same)
      | group | repeated | sequence | choice => cases same
  | group inner =>
      cases other with
      | group innerToo =>
          have inside := List.cons.inj (ListText.list.inj same).2
          exact congrArg _ (listText_inj inner innerToo inside.1)
      | reference | repeated | sequence | choice => cases same
  | repeated bounds body =>
      cases other with
      | repeated boundsToo bodyToo =>
          obtain ⟨rfl, inside⟩ := ListText.repeated_inj same
          exact congrArg _ (listText_inj body bodyToo inside)
      | reference | group | sequence | choice => cases same
  | sequence parts =>
      cases other with
      | sequence partsToo =>
          exact congrArg _ (allListText_inj parts partsToo (ListText.list.inj same).2)
      | reference | group | repeated | choice => cases same
  | choice alternatives =>
      cases other with
      | choice others =>
          exact congrArg _ (allListText_inj alternatives others (ListText.list.inj same).2)
      | reference | group | repeated | sequence => cases same

theorem allListText_inj (phrases others : List Phrase)
    (same : allListText phrases = allListText others) : phrases = others := by
  cases phrases with
  | nil =>
      cases others with
      | nil => rfl
      | cons _ _ => cases same
  | cons phrase rest =>
      cases others with
      | nil => cases same
      | cons first onward =>
          obtain ⟨here, behind⟩ := List.cons.inj same
          rw [listText_inj phrase first here, allListText_inj rest onward behind]

end

theorem eq_of_text_eq {phrase other : Phrase} (named : ∀ name ∈ phrase.names, IsName name)
    (namedToo : ∀ name ∈ other.names, IsName name) (same : phrase.text = other.text) :
    phrase = other := by
  have chars : phrase.listText.chars = other.listText.chars := by
    rw [← toList_text, ← toList_text, same]
  exact listText_inj phrase other (ListText.eq_of_chars_eq (legible_listText phrase named)
    (legible_listText other namedToo) chars)

end Notation.Phrase

mutual

/-- Whether every number in a matcher means a rule or a token of a table whose name is spelled as
names are. -/
def Matcher.Named (table : RuleTable) : Matcher → Prop
  | .token id => ∃ name, table.lexicon.name? id = some name ∧ IsName name
  | .rule id => ∃ rule, table.rule? id = some rule ∧ IsName rule.name
  | .sequence parts => Matcher.AllNamed table parts
  | .choice alternatives => Matcher.AllNamed table alternatives
  | .repeated _ body => body.Named table

def Matcher.AllNamed (table : RuleTable) : List Matcher → Prop
  | [] => True
  | part :: rest => part.Named table ∧ Matcher.AllNamed table rest

end

theorem Lexicon.name?_inj {lexicon : Lexicon} {id other : TokenId} {name : String}
    (told : lexicon.name? id = some name) (toldToo : lexicon.name? other = some name) :
    id = other := by
  have here := (idxOf?_eq_some_iff_of_nodup lexicon.distinct).mpr told
  have there := (idxOf?_eq_some_iff_of_nodup lexicon.distinct).mpr toldToo
  have numbers := Option.some.inj (here.symm.trans there)
  exact congrArg TokenId.mk (UInt32.toNat_inj.mp numbers)

namespace RuleTable

variable {table : RuleTable}

mutual

def listText (table : RuleTable) : Matcher → ListText
  | .token id => .word ((table.lexicon.name? id).getD "")
  | .rule id => .word ("<" ++ (table.rule? id).elim "" (·.name) ++ ">")
  | .sequence parts => .list .sequence (table.allListText parts)
  | .choice alternatives => .list .choice (table.allListText alternatives)
  | .repeated bounds body => .repeated bounds (table.listText body)

def allListText (table : RuleTable) : List Matcher → List ListText
  | [] => []
  | part :: rest => table.listText part :: table.allListText rest

end

mutual

theorem text_eq_listText (matcher : Matcher) (named : matcher.Named table) : ∃ text,
    matcher.text table.naming = .ok text ∧ text.toList = (table.listText matcher).chars := by
  cases matcher with
  | token id =>
      obtain ⟨name, told, -⟩ := named
      exact ⟨name, tokenName_of_name? told,
        by simp [listText, ListText.chars, told]⟩
  | rule id =>
      obtain ⟨rule, declared, -⟩ := named
      exact ⟨"<" ++ rule.name ++ ">",
        by simp [Matcher.text, naming, ruleName_of_rule? declared, Except.map],
        by simp [listText, ListText.chars, declared]⟩
  | sequence parts =>
      obtain ⟨text, shown, same⟩ := texts_eq_allListText parts named
      exact ⟨"(seq" ++ text ++ ")", by simp [Matcher.text, shown, Except.map],
        by simp [listText, ListText.chars, ListKind.head, same]⟩
  | choice alternatives =>
      obtain ⟨text, shown, same⟩ := texts_eq_allListText alternatives named
      exact ⟨"(alt" ++ text ++ ")", by simp [Matcher.text, shown, Except.map],
        by simp [listText, ListText.chars, ListKind.head, same]⟩
  | repeated bounds body =>
      obtain ⟨text, shown, same⟩ := text_eq_listText body named
      refine ⟨"(occur " ++ bounds.text ++ " " ++ text ++ ")",
        by simp [Matcher.text, shown, Except.map], ?_⟩
      rw [listText, ListText.chars_repeated]
      simp [same]

theorem texts_eq_allListText (matchers : List Matcher) (named : Matcher.AllNamed table matchers) :
    ∃ text, Matcher.texts table.naming matchers = .ok text ∧
      text.toList = ListText.allChars (table.allListText matchers) := by
  cases matchers with
  | nil => exact ⟨"", rfl, rfl⟩
  | cons matcher rest =>
      obtain ⟨first, shown, same⟩ := text_eq_listText matcher named.1
      obtain ⟨others, shownToo, sameToo⟩ := texts_eq_allListText rest named.2
      exact ⟨" " ++ first ++ others, by simp [Matcher.texts, shown, shownToo, Except.map],
        by simp [allListText, ListText.allChars, same, sameToo]⟩

end

mutual

theorem legible_listText (matcher : Matcher) (named : matcher.Named table) :
    (table.listText matcher).Legible := by
  cases matcher with
  | token id =>
      obtain ⟨name, told, named⟩ := named
      rw [listText, told]
      exact named.isWord
  | rule id =>
      obtain ⟨rule, declared, named⟩ := named
      rw [listText, declared]
      exact named.isWord_bracketed
  | sequence parts => exact legible_allListText parts named
  | choice alternatives => exact legible_allListText alternatives named
  | repeated bounds body => exact ListText.legible_repeated (legible_listText body named)

theorem legible_allListText (matchers : List Matcher) (named : Matcher.AllNamed table matchers) :
    ListText.AllLegible (table.allListText matchers) := by
  cases matchers with
  | nil => trivial
  | cons matcher rest =>
      exact ⟨legible_listText matcher named.1, legible_allListText rest named.2⟩

end

theorem rule?_inj (distinct : table.names.Nodup) {id other : RuleId} {rule known : Rule}
    (declared : table.rule? id = some rule) (declaredToo : table.rule? other = some known)
    (same : rule.name = known.name) : id = other := by
  have place : ∀ {id : RuleId} {rule : Rule}, table.rule? id = some rule →
      table.names.idxOf? rule.name = some id.index := by
    intro id rule declared
    rw [idxOf?_eq_some_iff_of_nodup distinct, getElem?_names]
    exact congrArg _ declared
  have here := place declared
  rw [same, place declaredToo] at here
  exact congrArg RuleId.mk (UInt32.toNat_inj.mp (Option.some.inj here).symm)

mutual

theorem listText_inj (distinct : table.names.Nodup) (matcher other : Matcher)
    (named : matcher.Named table) (namedToo : other.Named table)
    (same : table.listText matcher = table.listText other) : matcher = other := by
  cases matcher with
  | token id =>
      obtain ⟨name, told, spelled⟩ := named
      cases other with
      | token idToo =>
          obtain ⟨nameToo, toldToo, -⟩ := namedToo
          simp only [listText, told, toldToo, Option.getD_some, ListText.word.injEq] at same
          exact congrArg _ (Lexicon.name?_inj told (same ▸ toldToo))
      | rule _ =>
          simp only [listText, told, Option.getD_some, ListText.word.injEq] at same
          exact absurd same (spelled.ne_bracketed _)
      | sequence | choice | repeated => cases same
  | rule id =>
      obtain ⟨rule, declared, -⟩ := named
      cases other with
      | token _ =>
          obtain ⟨name, told, spelled⟩ := namedToo
          simp only [listText, told, Option.getD_some, ListText.word.injEq] at same
          exact absurd same.symm (spelled.ne_bracketed _)
      | rule _ =>
          obtain ⟨known, declaredToo, -⟩ := namedToo
          simp only [listText, declared, declaredToo, Option.elim_some, ListText.word.injEq,
            String.append_left_inj, String.append_right_inj] at same
          exact congrArg _ (rule?_inj distinct declared declaredToo same)
      | sequence | choice | repeated => cases same
  | sequence parts =>
      cases other with
      | sequence others =>
          exact congrArg _
            (allListText_inj distinct parts others named namedToo (ListText.list.inj same).2)
      | token | rule | choice | repeated => cases same
  | choice alternatives =>
      cases other with
      | choice others =>
          exact congrArg _
            (allListText_inj distinct alternatives others named namedToo (ListText.list.inj same).2)
      | token | rule | sequence | repeated => cases same
  | repeated bounds body =>
      cases other with
      | repeated boundsToo bodyToo =>
          obtain ⟨rfl, inside⟩ := ListText.repeated_inj same
          exact congrArg _ (listText_inj distinct body bodyToo named namedToo inside)
      | token | rule | sequence | choice => cases same

theorem allListText_inj (distinct : table.names.Nodup) (matchers others : List Matcher)
    (named : Matcher.AllNamed table matchers) (namedToo : Matcher.AllNamed table others)
    (same : table.allListText matchers = table.allListText others) : matchers = others := by
  cases matchers with
  | nil =>
      cases others with
      | nil => rfl
      | cons _ _ => cases same
  | cons matcher rest =>
      cases others with
      | nil => cases same
      | cons first onward =>
          obtain ⟨here, behind⟩ := List.cons.inj same
          rw [listText_inj distinct matcher first named.1 namedToo.1 here,
            allListText_inj distinct rest onward named.2 namedToo.2 behind]

end

theorem eq_of_text_eq (distinct : table.names.Nodup) {matcher other : Matcher}
    (named : matcher.Named table) (namedToo : other.Named table)
    (same : table.format matcher = table.format other) : matcher = other := by
  obtain ⟨text, shown, chars⟩ := text_eq_listText matcher named
  obtain ⟨textToo, shownToo, charsToo⟩ := text_eq_listText other namedToo
  rw [format, format, shown, shownToo] at same
  cases same
  exact listText_inj distinct matcher other named namedToo (ListText.eq_of_chars_eq
    (legible_listText matcher named) (legible_listText other namedToo) (chars.symm.trans charsToo))

end RuleTable

/-- No two phrases are shown alike whose names are spelled as names are, and no two matchers whose
numbers mean rules and tokens with such names in a table that is made from names and bodies. -/
theorem texts_injective :
    (∀ phrase other : Phrase, (∀ name ∈ phrase.names, IsName name) →
      (∀ name ∈ other.names, IsName name) → phrase.text = other.text → phrase = other) ∧
    ∀ lexicon rules table, RuleTable.ofRules lexicon rules = .ok table →
      ∀ matcher other : Matcher, matcher.Named table → other.Named table →
        (∃ text, table.format matcher = .ok text) ∧
          (table.format matcher = table.format other → matcher = other) := by
  refine ⟨fun phrase other => Phrase.eq_of_text_eq, ?_⟩
  intro lexicon rules table made matcher other named namedToo
  have distinct : table.names.Nodup :=
    (firstRepeated?_eq_none_iff.mp (RuleTable.made_of_ofRules made).distinct).1
  obtain ⟨text, shown, -⟩ := RuleTable.text_eq_listText matcher named
  exact ⟨⟨text, shown⟩, RuleTable.eq_of_text_eq distinct named namedToo⟩

open Recognizer (lists) in
/-- Bounds that are read alike are shown alike, and a name is not taken for a list of the same
head. A repetition that can never be met and an empty list are shown for what they are. -/
theorem texts_injective_lists :
    (∃ phrase other, Phrase.ofBody "alt (seq){1-4}" = .ok phrase ∧
      Phrase.ofBody "alt,(seq):{01 4}" = .ok other ∧
      phrase.text = "(seq alt (occur 1 4 (group seq)))" ∧ phrase = other) ∧
    RuleTable.ofRules lists.lexicon [("pair", "list A list"), ("list", "B+")] = .ok lists ∧
    (∃ rule, lists.rule? ⟨1⟩ = some rule ∧ lists.format rule.matcher = .ok "(occur 1 * B)" ∧
      rule.matcher = .repeated ⟨1, none⟩ (.token ⟨1⟩)) ∧
    lists.format (.repeated ⟨3, some 2⟩ (.sequence [.rule ⟨1⟩, .sequence []])) =
      .ok "(occur 3 2 (seq <list> (seq)))" ∧
    lists.format (.repeated ⟨3, some 2⟩ (.sequence [.rule ⟨1⟩, .sequence []])) ≠
      lists.format (.repeated ⟨3, some 2⟩ (.sequence [.rule ⟨1⟩])) := by
  have made : RuleTable.ofRules lists.lexicon [("pair", "list A list"), ("list", "B+")] =
      .ok lists := by cbv
  have shown : lists.format (.repeated ⟨3, some 2⟩ (.sequence [.rule ⟨1⟩, .sequence []])) =
      .ok "(occur 3 2 (seq <list> (seq)))" := by cbv
  refine ⟨?_, made, ?_, shown, fun same => ?_⟩
  · let phrase := Phrase.sequence
      [.reference "alt", .repeated ⟨1, some 4⟩ (.group (.reference "seq"))]
    have read : Phrase.ofBody "alt (seq){1-4}" = .ok phrase := by cbv
    have readToo : Phrase.ofBody "alt,(seq):{01 4}" = .ok phrase := by cbv
    have named : ∀ name ∈ phrase.names, IsName name := by
      intro name member
      rcases List.mem_pair.mp member with rfl | rfl <;>
        exact .name (by decide) (List.all_eq_true.mp rfl)
    exact ⟨phrase, phrase, read, readToo, by cbv,
      texts_injective.1 phrase phrase named named rfl⟩
  · have named : (Matcher.repeated ⟨1, none⟩ (.token ⟨1⟩)).Named lists :=
      ⟨"B", rfl, .name (by decide) (List.forall_mem_nil _)⟩
    exact ⟨_, rfl, by cbv, (texts_injective.2 _ _ _ made _ _ named named).2 rfl⟩
  · have list : (Matcher.rule ⟨1⟩).Named lists :=
      ⟨_, rfl, .name (by decide) (List.all_eq_true.mp rfl)⟩
    have named : (Matcher.repeated ⟨3, some 2⟩ (.sequence [.rule ⟨1⟩, .sequence []])).Named lists :=
      ⟨list, trivial, trivial⟩
    have namedToo : (Matcher.repeated ⟨3, some 2⟩ (.sequence [.rule ⟨1⟩])).Named lists :=
      ⟨list, trivial⟩
    cases (texts_injective.2 _ _ _ made _ _ named namedToo).2 same

end TextGrammar
