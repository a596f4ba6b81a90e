/-!
# Signed slices

A slice names a stretch of a sequence by two signed bounds: a negative bound counts from the
end, both are clamped to the sequence, and bounds that cross name nothing.  A single item has a
signed index, which is not clamped.
-/

namespace ProseCheck
namespace Slice

/-- Place of a signed bound in a sequence of `length` items. -/
def place (length : Nat) (bound : Int) : Nat :=
  if bound < 0 then (bound + length).toNat else min bound.toNat length

/-- Items from the place of `start` up to the place of `stop`. -/
def between {Item : Type} (items : List Item) (start stop : Int) : List Item :=
  (items.take (place items.length stop)).drop (place items.length start)

/-- Item at a signed index. -/
def item? {Item : Type} (items : List Item) (index : Int) : Option Item :=
  let place := if index < 0 then index + items.length else index
  if place < 0 then none else items[place.toNat]?

theorem item?_natCast {Item : Type} (items : List Item) (index : Nat) :
    item? items index = items[index]? := by
  have : ¬ (index : Int) < 0 := by omega
  simp [item?, this]

theorem place_le (length : Nat) (bound : Int) : place length bound ≤ length := by
  unfold place
  split <;> omega

theorem place_natCast (length bound : Nat) : place length bound = min bound length := by
  unfold place
  split <;> omega

theorem between_natCast {Item : Type} (items : List Item) (start stop : Nat) :
    between items start stop = (items.take stop).drop (min start items.length) := by
  simp only [between, place_natCast]
  congr 1
  rw [List.take_eq_take_iff]
  omega

end Slice
end ProseCheck
