import ProseCheck.Text.Units

/-!
# Unit offsets of characters

The table of unit offsets ascends, since every character has a unit, so searching it for an offset
counts the characters that start before it.  The number of units before a character therefore finds
that character: what a server counts in units is converted back to the characters that it counted.
-/

namespace ProseCheck
namespace Units

theorem width_pos (char : Char) : 0 < width char := by
  unfold width
  split <;> decide

@[simp]
theorem size_nil : size [] = 0 := rfl

@[simp]
theorem size_cons (char : Char) (rest : Text) : size (char :: rest) = width char + size rest := rfl

@[simp]
theorem size_append (left right : Text) : size (left ++ right) = size left + size right := by
  induction left with
  | nil => simp
  | cons char rest induction => simp [induction, Nat.add_assoc]

theorem size_pos {text : Text} (nonempty : text ≠ []) : 0 < size text := by
  cases text with
  | nil => contradiction
  | cons char rest => exact Nat.add_pos_left (width_pos char) _

/-- The table holds the number of units before each character and before the end. -/
theorem getElem?_offsetsFrom (first : Nat) (text : Text) {index : Nat} (le : index ≤ text.length) :
    (offsetsFrom first text)[index]? = some (first + size (text.take index)) := by
  induction text generalizing first index with
  | nil =>
      obtain rfl : index = 0 := by simpa using le
      rfl
  | cons char rest induction =>
      cases index with
      | zero => rfl
      | succ index =>
          have le_rest : index ≤ rest.length := by simpa using le
          rw [offsetsFrom, List.getElem?_cons_succ, induction _ le_rest, List.take_succ_cons,
            size_cons, Nat.add_assoc]

theorem getD_offsets (text : Text) {index : Nat} (le : index ≤ text.length) :
    (offsets text).getD index 0 = size (text.take index) := by
  rw [List.getD_eq_getElem?_getD, offsets, getElem?_offsetsFrom 0 text le, Nat.zero_add]
  rfl

/-- Units of the characters before a place are those before an earlier one, and those between. -/
theorem size_take_add_size {text : Text} {index other : Nat} (le : index ≤ other) :
    size (text.take index) + size ((text.take other).drop index) = size (text.take other) := by
  have front : (text.take other).take index = text.take index := by
    rw [List.take_take, Nat.min_eq_left le]
  rw [← size_append, ← front, List.take_append_drop]

theorem size_take_le {text : Text} {index other : Nat} (le : index ≤ other) :
    size (text.take index) ≤ size (text.take other) := by
  rw [← size_take_add_size le]
  exact Nat.le_add_right _ _

/-- More characters have more units. -/
theorem size_take_lt {text : Text} {index other : Nat} (lt : index < other)
    (le : other ≤ text.length) : size (text.take index) < size (text.take other) := by
  have nonempty : (text.take other).drop index ≠ [] := by
    rw [ne_eq, List.drop_eq_nil_iff, List.length_take]
    omega
  rw [← size_take_add_size (Nat.le_of_lt lt)]
  exact Nat.lt_add_of_pos_right (size_pos nonempty)

/-- The search counts the characters, and the end, that stand before an offset. -/
theorem countBelow_le_iff {text : Text} {offset index : Nat} (le : index ≤ text.length) :
    Bisect.countBelow (offsets text) offset ≤ index ↔ offset ≤ size (text.take index) := by
  have onward : ∀ first second, first ≤ second → second < (offsets text).length →
      decide ((offsets text).getD second 0 < offset) = true →
        decide ((offsets text).getD first 0 < offset) = true := by
    intro first second first_le second_lt
    rw [length_offsets] at second_lt
    rw [getD_offsets text (by omega), getD_offsets text (by omega), decide_eq_true_eq,
      decide_eq_true_eq]
    exact Nat.lt_of_le_of_lt (size_take_le first_le)
  rw [Bisect.countBelow, Bisect.firstFailure_le_iff _ (Nat.zero_le _) (by simp; omega) onward,
    decide_eq_false_iff_not, getD_offsets text le, Nat.not_lt]

/-- The characters before the one found are those that start before the offset. -/
theorem lt_charIndex_iff {text : Text} {offset : Int} {index : Nat} :
    index < charIndex (offsets text) offset ↔
      index < text.length ∧ (size (text.take index) : Int) < offset := by
  have counted : index ≤ text.length →
      (index < Bisect.countBelow (offsets text) offset.toNat ↔
        size (text.take index) < offset.toNat) := by
    intro le
    have le_iff : Bisect.countBelow (offsets text) offset.toNat ≤ index ↔
        offset.toNat ≤ size (text.take index) := countBelow_le_iff le
    omega
  unfold charIndex
  split
  · omega
  · rw [length_offsets]
    omega

/-- Later offsets find later characters. -/
theorem charIndex_mono {text : Text} {offset other : Int} (le : offset ≤ other) :
    charIndex (offsets text) offset ≤ charIndex (offsets text) other := by
  apply Nat.le_of_not_lt
  intro lt
  obtain ⟨inside, before⟩ := lt_charIndex_iff.1 lt
  exact Nat.lt_irrefl _ (lt_charIndex_iff.2 ⟨inside, Int.lt_of_lt_of_le before le⟩)

/-- The number of units before a character finds it. -/
theorem charIndex_size_take (text : Text) {index : Nat} (le : index ≤ text.length) :
    charIndex (offsets text) (size (text.take index)) = index := by
  apply Nat.le_antisymm
  · apply Nat.le_of_not_lt
    intro lt
    obtain ⟨-, before⟩ := lt_charIndex_iff.1 lt
    exact Int.lt_irrefl _ before
  · apply Nat.le_of_not_lt
    intro lt
    have before := Int.ofNat_lt.2 (size_take_lt lt le)
    exact Nat.lt_irrefl _ (lt_charIndex_iff.2 ⟨Nat.lt_of_lt_of_le lt le, before⟩)

/-- The units of the first part of a text find its end. -/
theorem charIndex_size (left right : Text) :
    charIndex (offsets (left ++ right)) (size left) = left.length := by
  have le : left.length ≤ (left ++ right).length := by simp
  have found := charIndex_size_take (left ++ right) le
  rwa [List.take_left] at found

end Units
end ProseCheck
