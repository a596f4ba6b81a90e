import ProseCheck.Text.Basic

/-!
# Blank characters

The characters that separate words: the white space of the Unicode standard together with the
four information separators.  A line break is blank too.
-/

namespace ProseCheck
namespace Text

/-- Blank: white space, or one of the information separators U+001C to U+001F. -/
def isBlank (char : Char) : Bool :=
  let code := char.toNat
  (9 ≤ code && code ≤ 13) || (0x1C ≤ code && code ≤ 0x20) || code == 0x85 || code == 0xA0
    || code == 0x1680 || (0x2000 ≤ code && code ≤ 0x200A) || code == 0x2028 || code == 0x2029
    || code == 0x202F || code == 0x205F || code == 0x3000

/-- The white space of ASCII: a space, or one of the five controls that move the cursor on. -/
def isSpace (char : Char) : Bool := (9 ≤ char.toNat && char.toNat ≤ 13) || char == ' '

/-- White space proper: blank, and no information separator. -/
def isWhiteSpace (char : Char) : Bool :=
  isBlank char && !(0x1C ≤ char.toNat && char.toNat ≤ 0x1F)

/-- The text without the characters of a class at either end. -/
def trim (drops : Char → Bool) (text : Text) : Text :=
  ((text.dropWhile drops).reverse.dropWhile drops).reverse

/-- The text without blanks at its right end. -/
def trimRight (text : Text) : Text := (text.reverse.dropWhile isBlank).reverse

/-- The text without blanks at either end. -/
def strip (text : Text) : Text := trim isBlank text

/-- Whether the text holds blanks only. -/
def isBlankText (text : Text) : Bool := text.all isBlank

/-- The maximal runs of characters that are not blank. -/
def words (text : Text) : List Text :=
  (text.splitBy fun left right => isBlank left == isBlank right).filter fun run =>
    !isBlankText run

section Trim

variable {drops : Char → Bool} {text : Text}

/-- What is taken off stands at the two ends. -/
theorem exists_trim (drops : Char → Bool) (text : Text) :
    ∃ front back, text = front ++ trim drops text ++ back ∧
      (∀ char ∈ front, drops char = true) ∧ ∀ char ∈ back, drops char = true := by
  have split_text := List.takeWhile_append_dropWhile (p := drops) (l := text)
  have split_rest := List.takeWhile_append_dropWhile (p := drops)
    (l := (text.dropWhile drops).reverse)
  refine ⟨text.takeWhile drops, ((text.dropWhile drops).reverse.takeWhile drops).reverse, ?_,
    fun char mem => List.all_eq_true.1 List.all_takeWhile char mem, fun char mem => ?_⟩
  · rw [trim, List.append_assoc, ← List.reverse_append, split_rest, List.reverse_reverse,
      split_text]
  · exact List.all_eq_true.1 List.all_takeWhile char (List.mem_reverse.1 mem)

/-- What stands around a text is taken off. -/
theorem trim_append {front back : Text} (front_drops : ∀ char ∈ front, drops char = true)
    (back_drops : ∀ char ∈ back, drops char = true)
    (starts : ∀ char ∈ text.head?, drops char = false)
    (ends : ∀ char ∈ text.getLast?, drops char = false) :
    trim drops (front ++ text ++ back) = text := by
  have back_reverse_drops : ∀ char ∈ back.reverse, drops char = true := by simpa using back_drops
  rw [trim, List.append_assoc, List.dropWhile_append_of_pos front_drops]
  cases text with
  | nil =>
      rw [List.nil_append, ← List.append_nil back, List.dropWhile_append_of_pos back_drops]
      rfl
  | cons char rest =>
      have solid : ¬ drops char = true := by simp [starts char rfl]
      rw [List.cons_append, List.dropWhile_cons_of_neg solid, ← List.cons_append,
        List.reverse_append, List.dropWhile_append_of_pos back_reverse_drops]
      rw [← List.head?_reverse] at ends
      cases reverse_eq : (char :: rest).reverse with
      | nil => simp at reverse_eq
      | cons last more =>
          rw [reverse_eq] at ends
          rw [List.dropWhile_cons_of_neg (by simp [ends last rfl]), ← reverse_eq,
            List.reverse_reverse]

/-- A text that neither begins nor ends with what is dropped stays as it is. -/
theorem trim_eq_self (starts : ∀ char ∈ text.head?, drops char = false)
    (ends : ∀ char ∈ text.getLast?, drops char = false) : trim drops text = text := by
  have nothing : ∀ char ∈ ([] : Text), drops char = true := fun _ mem => by contradiction
  simpa using trim_append nothing nothing starts ends

end Trim

end Text
end ProseCheck
