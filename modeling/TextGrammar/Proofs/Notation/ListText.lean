import TextGrammar.Notation.Phrase
import TextGrammar.Proofs.Notation.Spelling

/-!
Nested lists as text. A list stands in parentheses, its kind in front and a blank before each of its
parts. What is not a list is a word, in which there are neither blanks nor parentheses. So it shows
in the text where a word ends and where a list does, and no two nested lists have one text.
-/

namespace TextGrammar.Notation

inductive ListKind where
  | group
  | repetition
  | sequence
  | choice

def ListKind.head : ListKind → String
  | .group => "group"
  | .repetition => "occur"
  | .sequence => "seq"
  | .choice => "alt"

inductive ListText where
  | word (text : String)
  | list (kind : ListKind) (parts : List ListText)

mutual

def ListText.chars : ListText → List Char
  | .word text => text.toList
  | .list kind parts => '(' :: (kind.head.toList ++ (ListText.allChars parts ++ [')']))

def ListText.allChars : List ListText → List Char
  | [] => []
  | part :: rest => ' ' :: (part.chars ++ ListText.allChars rest)

end

def isPlain (c : Char) : Bool := !(c = ' ' || c = '(' || c = ')')

theorem isPlain_of_isNameChar {c : Char} (more : isNameChar c = true) : isPlain c = true := by
  cases plain : isPlain c with
  | true => rfl
  | false =>
      simp only [isPlain, Bool.not_eq_false', Bool.or_eq_true, decide_eq_true_eq] at plain
      rcases plain with (rfl | rfl) | rfl <;> exact absurd more (by decide)

structure IsWord (chars : List Char) : Prop where
  filled : chars ≠ []
  plain : ∀ c ∈ chars, isPlain c = true

theorem ListKind.isWord (kind : ListKind) : IsWord kind.head.toList := by
  cases kind <;> exact ⟨List.cons_ne_nil _ _, List.all_eq_true.mp rfl⟩

theorem ListKind.head_injective : Function.Injective head := by
  intro kind other same
  cases kind <;> cases other <;> first | rfl | exact absurd same (by decide)

mutual

def ListText.Legible : ListText → Prop
  | .word text => IsWord text.toList
  | .list _ parts => ListText.AllLegible parts

def ListText.AllLegible : List ListText → Prop
  | [] => True
  | part :: rest => part.Legible ∧ ListText.AllLegible rest

end

def EndsWord (text : List Char) : Prop := ∀ c ∈ text.head?, isPlain c = false

theorem endsWord_of_head {c : Char} (stops : isPlain c = false) (rest : List Char) :
    EndsWord (c :: rest) := by
  rintro _ ⟨⟩
  exact stops

section Words

variable {left right rest other : List Char}

theorem IsWord.append_inj (word : IsWord left) (wordToo : IsWord right) (ends : EndsWord rest)
    (endsToo : EndsWord other) (same : left ++ rest = right ++ other) :
    left = right ∧ rest = other := by
  have length : left.length = right.length := by
    rw [← runLength_append word.plain ends, same, runLength_append wordToo.plain endsToo]
  exact List.append_inj same length

theorem IsWord.append_ne (word : IsWord left) : left ++ rest ≠ '(' :: other := by
  cases left with
  | nil => exact absurd rfl word.filled
  | cons first _ =>
      intro same
      have plain := word.plain first List.mem_cons_self
      rw [(List.cons.inj same).1] at plain
      cases plain

end Words

namespace ListText

theorem endsWord_allChars (parts : List ListText) (rest : List Char) :
    EndsWord (allChars parts ++ ')' :: rest) := by
  cases parts with
  | nil => exact endsWord_of_head rfl rest
  | cons part others => exact endsWord_of_head rfl _

mutual

/-- From a text that starts with a nested list, the list and what stands behind it can be told. -/
theorem chars_append_inj (left right : ListText) {rest other : List Char} (legible : left.Legible)
    (legibleToo : right.Legible) (ends : EndsWord rest) (endsToo : EndsWord other)
    (same : left.chars ++ rest = right.chars ++ other) : left = right ∧ rest = other := by
  cases left with
  | word text =>
      cases right with
      | word _ =>
          obtain ⟨chars, behind⟩ := IsWord.append_inj legible legibleToo ends endsToo same
          exact ⟨congrArg _ (String.toList_injective chars), behind⟩
      | list _ _ => exact absurd same (IsWord.append_ne legible)
  | list kind parts =>
      cases right with
      | word _ => exact absurd same.symm (IsWord.append_ne legibleToo)
      | list kindToo partsToo =>
          simp only [chars, List.cons_append, List.cons.injEq, true_and, List.append_assoc,
            List.nil_append] at same
          obtain ⟨heads, inside⟩ := kind.isWord.append_inj kindToo.isWord
            (endsWord_allChars parts rest) (endsWord_allChars partsToo other) same
          cases ListKind.head_injective (String.toList_injective heads)
          obtain ⟨rfl, behind⟩ := allChars_append_inj parts partsToo legible legibleToo inside
          exact ⟨rfl, behind⟩

theorem allChars_append_inj (parts others : List ListText) {rest other : List Char}
    (legible : AllLegible parts) (legibleToo : AllLegible others)
    (same : allChars parts ++ ')' :: rest = allChars others ++ ')' :: other) :
    parts = others ∧ rest = other := by
  cases parts with
  | nil =>
      cases others with
      | nil => exact ⟨rfl, (List.cons.inj same).2⟩
      | cons _ _ => cases (List.cons.inj same).1
  | cons part parts =>
      cases others with
      | nil => cases (List.cons.inj same).1
      | cons first others =>
          simp only [allChars, List.cons_append, List.cons.injEq, true_and,
            List.append_assoc] at same
          obtain ⟨rfl, behind⟩ := chars_append_inj part first legible.1 legibleToo.1
            (endsWord_allChars parts rest) (endsWord_allChars others other) same
          obtain ⟨rfl, onward⟩ := allChars_append_inj parts others legible.2 legibleToo.2 behind
          exact ⟨rfl, onward⟩

end

theorem eq_of_chars_eq {left right : ListText} (legible : left.Legible)
    (legibleToo : right.Legible) (same : left.chars = right.chars) : left = right := by
  have none : EndsWord [] := fun _ absent => nomatch absent
  refine (chars_append_inj left right legible legibleToo none none ?_).1
  rw [same]

end ListText

/-! Bounds are two words: the counts, or an asterisk in place of the second one. -/

def countWord (count : UInt32) : String := toString count.toNat

theorem countWord_injective : Function.Injective countWord := fun _ _ same =>
  UInt32.toNat_inj.mp (Nat.repr_injective same)

theorem isDigit_of_mem_countWord {count : UInt32} {c : Char}
    (there : c ∈ (countWord count).toList) : c.isDigit = true := by
  rw [countWord, Nat.toString_eq_repr, Nat.toList_repr] at there
  exact Nat.isDigit_of_mem_toDigits (by decide) (by decide) there

theorem isWord_countWord (count : UInt32) : IsWord (countWord count).toList where
  filled := by
    rw [countWord, Nat.toString_eq_repr, Nat.toList_repr]
    exact Nat.toDigits_ne_nil
  plain c there := by
    have digit := isDigit_of_mem_countWord there
    exact isPlain_of_isNameChar (by simp [isNameChar, Char.isAlphanum, digit])

def Bounds.lastWord (bounds : Bounds) : String := bounds.most.elim "*" countWord

def ListText.repeated (bounds : Bounds) (body : ListText) : ListText :=
  .list .repetition [.word (countWord bounds.least), .word bounds.lastWord, body]

namespace Bounds

theorem lastWord_inj {bounds other : Bounds} (same : bounds.lastWord = other.lastWord) :
    bounds.most = other.most := by
  -- an asterisk is no digit
  have counted : ∀ count, countWord count ≠ "*" := by
    intro count starred
    have digit : ('*').isDigit = true :=
      @isDigit_of_mem_countWord count '*' (by simp [starred])
    cases digit
  unfold lastWord at same
  cases upper : bounds.most with
  | none =>
      cases upperToo : other.most with
      | none => rfl
      | some most => simp [upper, upperToo, (counted most).symm] at same
  | some most =>
      cases upperToo : other.most with
      | none => simp [upper, upperToo, counted most] at same
      | some mostToo =>
          rw [upper, upperToo] at same
          exact congrArg some (countWord_injective same)

theorem isWord_lastWord (bounds : Bounds) : IsWord bounds.lastWord.toList := by
  rw [lastWord]
  cases bounds.most with
  | none => exact ⟨List.cons_ne_nil _ _, List.all_eq_true.mp rfl⟩
  | some most => exact isWord_countWord most

theorem text_eq (bounds : Bounds) :
    bounds.text = countWord bounds.least ++ " " ++ bounds.lastWord := by
  rw [text, lastWord]
  cases bounds.most with
  | none => simp [countWord, String.append_assoc]
  | some most => rfl

end Bounds

namespace ListText

theorem chars_repeated (bounds : Bounds) (body : ListText) : (repeated bounds body).chars =
    "(occur ".toList ++ bounds.text.toList ++ " ".toList ++ body.chars ++ ")".toList := by
  simp [repeated, ListKind.head, chars, allChars, bounds.text_eq]

theorem legible_repeated {bounds : Bounds} {body : ListText} (legible : body.Legible) :
    (repeated bounds body).Legible :=
  ⟨isWord_countWord bounds.least, bounds.isWord_lastWord, legible, trivial⟩

theorem repeated_inj {bounds other : Bounds} {body otherBody : ListText}
    (same : repeated bounds body = repeated other otherBody) :
    bounds = other ∧ body = otherBody := by
  simp only [repeated, list.injEq, List.cons.injEq, word.injEq, true_and, and_true] at same
  obtain ⟨least, most, inside⟩ := same
  obtain ⟨first, last⟩ := bounds
  cases countWord_injective least
  cases Bounds.lastWord_inj most
  exact ⟨rfl, inside⟩

end ListText

end TextGrammar.Notation
