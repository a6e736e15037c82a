/-!
Offsets into text. Text is a list of characters, and a position in it is counted in the
bytes that the characters take when written as UTF-8. Cutting at an offset that two parts
of a text have between them gives back the parts.
-/

namespace TextGrammar.Text

def size : List Char → Nat
  | [] => 0
  | c :: rest => c.utf8Size + size rest

/-- What is left of a text after its first `count` bytes. A character that is cut in two
goes with the part that is dropped. -/
def dropBytes : Nat → List Char → List Char
  | 0, text => text
  | _ + 1, [] => []
  | count + 1, c :: rest => dropBytes (count + 1 - c.utf8Size) rest

def takeBytes : Nat → List Char → List Char
  | 0, _ => []
  | _ + 1, [] => []
  | count + 1, c :: rest => c :: takeBytes (count + 1 - c.utf8Size) rest

def slice (text : List Char) (start stop : Nat) : List Char :=
  takeBytes (stop - start) (dropBytes start text)

theorem size_append (left right : List Char) :
    size (left ++ right) = size left + size right := by
  induction left with
  | nil => simp [size]
  | cons c rest ih => simp only [List.cons_append, size, ih]; omega

theorem size_eq_zero_iff (text : List Char) : size text = 0 ↔ text = [] := by
  cases text with
  | nil => simp [size]
  | cons c rest =>
      have positive := c.utf8Size_pos
      simp only [size, reduceCtorEq, iff_false]
      omega

theorem size_pos_iff (text : List Char) : 0 < size text ↔ text ≠ [] := by
  rw [Nat.pos_iff_ne_zero, ne_eq, size_eq_zero_iff]

theorem dropBytes_size_append (left right : List Char) :
    dropBytes (size left) (left ++ right) = right := by
  induction left with
  | nil => cases right <;> rfl
  | cons c rest ih =>
      have positive := c.utf8Size_pos
      obtain ⟨count, total⟩ : ∃ count, size (c :: rest) = count + 1 :=
        ⟨size (c :: rest) - 1, by simp only [size]; omega⟩
      rw [total, List.cons_append, dropBytes, ← total]
      simpa [size] using ih

theorem takeBytes_size_append (left right : List Char) :
    takeBytes (size left) (left ++ right) = left := by
  induction left with
  | nil => cases right <;> rfl
  | cons c rest ih =>
      have positive := c.utf8Size_pos
      obtain ⟨count, total⟩ : ∃ count, size (c :: rest) = count + 1 :=
        ⟨size (c :: rest) - 1, by simp only [size]; omega⟩
      rw [total, List.cons_append, takeBytes, ← total]
      simpa [size] using ih

theorem slice_between (before middle after : List Char) :
    slice (before ++ middle ++ after) (size before) (size before + size middle) = middle := by
  rw [slice, List.append_assoc, dropBytes_size_append, Nat.add_sub_cancel_left,
    takeBytes_size_append]

end TextGrammar.Text
