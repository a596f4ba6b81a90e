/-!
# Searching by halves

A search for the first place of a range where a test fails.  Every probe halves the range, also
when the test is not monotone; for a monotone test the answer is the first failure itself.
-/

namespace ProseCheck
namespace Bisect

/-- First place in `[low, high)` where `passes` fails, or `high`, probing the middle each time. -/
def firstFailure (passes : Nat → Bool) (low high : Nat) : Nat :=
  if low < high then
    if passes ((low + high) / 2) then firstFailure passes ((low + high) / 2 + 1) high
    else firstFailure passes low ((low + high) / 2)
  else low
termination_by high - low

/-- Number of leading items that are at most `value`, for items in ascending order. -/
def countAtMost (items : List Nat) (value : Nat) : Nat :=
  firstFailure (fun place => items.getD place 0 ≤ value) 0 items.length

/-- Number of leading items that are below `value`, for items in ascending order. -/
def countBelow (items : List Nat) (value : Nat) : Nat :=
  firstFailure (fun place => items.getD place 0 < value) 0 items.length

theorem firstFailure_mem_Icc (passes : Nat → Bool) {low high : Nat} (ordered : low ≤ high) :
    low ≤ firstFailure passes low high ∧ firstFailure passes low high ≤ high := by
  fun_induction firstFailure passes low high <;> omega

/-- Of a test that passes up to a place and fails from there on, the place is the answer. -/
theorem firstFailure_eq (passes : Nat → Bool) {low place high : Nat} (low_le : low ≤ place)
    (le_high : place ≤ high)
    (passed : ∀ index, low ≤ index → index < place → passes index = true)
    (failed : ∀ index, place ≤ index → index < high → passes index = false) :
    firstFailure passes low high = place := by
  fun_induction firstFailure passes low high with
  | case1 low high nonempty middle_passes induction =>
      have middle_lt : (low + high) / 2 < place := Nat.lt_of_not_le fun place_le => by
        rw [failed ((low + high) / 2) place_le (by omega)] at middle_passes
        contradiction
      exact induction (by omega) le_high (fun index le => passed index (by omega)) failed
  | case2 low high nonempty middle_fails induction =>
      have place_le : place ≤ (low + high) / 2 := Nat.le_of_not_lt fun middle_lt =>
        middle_fails (passed _ (by omega) middle_lt)
      exact induction low_le place_le passed fun index le lt => failed index le (by omega)
  | case3 low high empty => omega

/-- Of a test that, once failed, fails from there on, the answer is at most every place where it
fails. -/
theorem firstFailure_le_iff (passes : Nat → Bool) {low index high : Nat} (low_le : low ≤ index)
    (lt_high : index < high)
    (onward : ∀ first second, first ≤ second → second < high → passes second = true →
      passes first = true) :
    firstFailure passes low high ≤ index ↔ passes index = false := by
  fun_induction firstFailure passes low high with
  | case1 low high nonempty middle_passes induction =>
      rcases Nat.lt_or_ge ((low + high) / 2) index with middle_lt | le_middle
      · exact induction middle_lt lt_high onward
      · have passed := onward index _ le_middle (by omega) middle_passes
        have beyond := (firstFailure_mem_Icc passes (by omega : (low + high) / 2 + 1 ≤ high)).1
        simp only [passed, Bool.true_eq_false, iff_false]
        omega
  | case2 low high nonempty middle_fails induction =>
      rcases Nat.lt_or_ge index ((low + high) / 2) with lt_middle | middle_le
      · exact induction low_le lt_middle fun first second le lt => onward first second le (by omega)
      · have failed : passes index = false :=
          Bool.eq_false_iff.2 fun passed => middle_fails (onward _ index middle_le lt_high passed)
        have within := (firstFailure_mem_Icc passes (by omega : low ≤ (low + high) / 2)).2
        simp only [failed, iff_true]
        omega
  | case3 low high empty => omega

/-- Items that are at most a value, in front of items above it, are counted. -/
theorem countAtMost_append {front back : List Nat} {value : Nat}
    (at_most : ∀ item ∈ front, item ≤ value) (above : ∀ item ∈ back, value < item) :
    countAtMost (front ++ back) value = front.length := by
  refine firstFailure_eq _ (Nat.zero_le _) (by simp) ?_ ?_
  · intro place _ place_lt
    rw [List.getD_eq_getElem?_getD, List.getElem?_append_left place_lt,
      List.getElem?_eq_getElem place_lt, Option.getD_some, decide_eq_true_eq]
    exact at_most _ (List.getElem_mem place_lt)
  · intro place le_place place_lt
    have inside : place - front.length < back.length := by
      rw [List.length_append] at place_lt
      omega
    rw [List.getD_eq_getElem?_getD, List.getElem?_append_right le_place,
      List.getElem?_eq_getElem inside, Option.getD_some, decide_eq_false_iff_not, Nat.not_le]
    exact above _ (List.getElem_mem inside)

end Bisect
end ProseCheck
