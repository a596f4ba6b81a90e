import ProseCheck.Proofs.Text.Utf8

/-!
# Ranges of octets

A range of octets between characters of a text is the written form of a part of the text.  Where a
text repeats these octets, it holds the written form of that part as well.
-/

namespace ProseCheck

/-- A slice by its own bounds is what stands between them. -/
theorem Slice.between_middle {Item : Type} (front middle back : List Item) {start stop : Int}
    (start_eq : start = front.length) (stop_eq : stop = front.length + middle.length) :
    between (front ++ middle ++ back) start stop = middle := by
  rw [start_eq, stop_eq, ← Int.natCast_add, ← List.length_append, between_natCast, List.take_left,
    List.length_append, List.length_append, Nat.min_eq_left (by omega), List.drop_left]

/-- An item of a sequence stands between the items in front of it and those behind it. -/
theorem Slice.exists_split {Item : Type} {items : List Item} {place : Nat}
    (inside : place < items.length) :
    ∃ front item back, items = front ++ item :: back ∧ front.length = place := by
  refine ⟨items.take place, items[place], items.drop (place + 1), ?_,
    List.length_take_of_le (Nat.le_of_lt inside)⟩
  rw [← List.drop_eq_getElem_cons inside, List.take_append_drop]

/-- Of two bounds from the same end the greater one has the later place. -/
theorem Slice.place_mono (length : Nat) {bound greater : Int} (le : bound ≤ greater)
    (same_end : 0 ≤ bound ∨ greater < 0) : place length bound ≤ place length greater := by
  unfold place
  split <;> split <;> omega

/-- A slice grows with the place of its second bound. -/
theorem Slice.between_prefix {Item : Type} (items : List Item) (start : Int) {stop greater : Int}
    (le : place items.length stop ≤ place items.length greater) :
    between items start stop <+: between items start greater := by
  obtain ⟨rest, split_eq⟩ : items.take (place items.length stop) <+:
      items.take (place items.length greater) := List.take_prefix_take_left le
  rw [between, between, ← split_eq, List.drop_append]
  exact List.prefix_append _ _

namespace Utf8

/-- Octets of a text from one up to another. -/
def octetsIn (text : Text) (start stop : Int) : List Nat :=
  ((encode text).take stop.toNat).drop start.toNat

/-- Whether an octet stands between two characters of a text, or at an end of it. -/
def IsBoundary (text : Text) (octet : Int) : Prop :=
  ∃ before after, text = before ++ after ∧ octet = size before

theorem decodeLossy_encode (text : Text) : decodeLossy (encode text) = text := by
  rw [decodeLossy, marks_encode, List.map_map]
  exact List.map_id _

theorem octetsIn_append (before part after : Text) :
    octetsIn (before ++ part ++ after) (size before) (size (before ++ part)) = encode part := by
  have same : octetsIn (before ++ part ++ after) (size before) (size (before ++ part)) =
      Slice.between (encode (before ++ part ++ after)) (size before : Int)
        (size (before ++ part) : Int) := by
    rw [Slice.between_natCast, length_encode, octetsIn, Int.toNat_natCast, Int.toNat_natCast,
      Nat.min_eq_left (by simp only [size_append]; omega)]
  rw [same, between_encode_append]

/-- A range between characters of a text is the written form of a part of it. -/
theorem exists_part {text : Text} {start stop : Int} (starts : IsBoundary text start)
    (stops : IsBoundary text stop) :
    ∃ part, Slice.between (encode text) start stop = encode part ∧
      octetsIn text start stop = encode part ∧ (part ≠ [] → stop - start = size part) := by
  obtain ⟨left, right, rfl, rfl⟩ := starts
  obtain ⟨front, back, split, rfl⟩ := stops
  rcases List.append_eq_append_iff.1 split with ⟨part, rfl, rfl⟩ | ⟨rest, rfl, rfl⟩
  · refine ⟨part, ?_, ?_, fun _ => by simp only [size_append]; omega⟩
    · rw [← List.append_assoc, between_encode_append]
    · rw [← List.append_assoc, octetsIn_append]
  · -- The second bound stands before the first one, and nothing between them.
    refine ⟨[], ?_, ?_, fun nonempty => absurd rfl nonempty⟩
    · rw [Slice.between_natCast]
      refine List.drop_eq_nil_of_le ?_
      simp only [List.length_take, length_encode, size_append]
      omega
    · refine List.drop_eq_nil_of_le ?_
      simp only [Int.toNat_natCast, List.length_take, size_append]
      omega

theorem size_pos {text : Text} (nonempty : text ≠ []) : 0 < size text := by
  cases text with
  | nil => contradiction
  | cons char rest => exact Nat.add_pos_left (width_pos char) _

theorem eq_nil_of_size_le_zero {text : Text} (size_le : size text ≤ 0) : text = [] := by
  cases text with
  | nil => rfl
  | cons char rest =>
      have := size_pos (List.cons_ne_nil char rest)
      omega

/-- Texts that begin alike do so for as long as they have the same number of octets. -/
theorem eq_of_size_eq {left right more rest : Text} (same : left ++ more = right ++ rest)
    (size_eq : size left = size right) : left = right := by
  rcases List.append_eq_append_iff.1 same with ⟨extra, rfl, -⟩ | ⟨extra, rfl, -⟩
  · rw [size_append] at size_eq
    have nothing : extra = [] := eq_nil_of_size_le_zero (by omega)
    rw [nothing, List.append_nil]
  · rw [size_append] at size_eq
    have nothing : extra = [] := eq_nil_of_size_le_zero (by omega)
    rw [nothing, List.append_nil]

/-- Between two boundaries of a text stands a part of it. -/
theorem exists_between {text : Text} {start stop : Int} (starts : IsBoundary text start)
    (stops : IsBoundary text stop) (le : start ≤ stop) :
    ∃ before part after, text = before ++ part ++ after ∧ start = size before ∧
      stop = size (before ++ part) := by
  obtain ⟨left, right, rfl, rfl⟩ := starts
  obtain ⟨front, back, same, rfl⟩ := stops
  rcases List.append_eq_append_iff.1 same with ⟨part, rfl, rfl⟩ | ⟨part, rfl, rfl⟩
  · exact ⟨left, part, back, by rw [List.append_assoc], rfl, rfl⟩
  · rw [size_append] at le
    obtain rfl : part = [] := eq_nil_of_size_le_zero (by omega)
    exact ⟨front, [], right, by simp, by simp, by simp⟩

/-- Octets of a text that are the written form of something stand between other octets. -/
theorem exists_around {text part : Text} {offset : Int} (nonempty : part ≠ [])
    (same : octetsIn text offset (offset + size part) = encode part) :
    ∃ before after, encode text = before ++ encode part ++ after ∧ offset = before.length := by
  have part_pos := size_pos nonempty
  have length_eq := congrArg List.length same
  rw [octetsIn, List.length_drop, List.length_take, length_encode, length_encode] at length_eq
  have offset_nonneg : 0 ≤ offset := by omega
  obtain ⟨first, rfl⟩ := Int.eq_ofNat_of_zero_le offset_nonneg
  refine ⟨(encode text).take first, (encode text).drop (first + size part), ?_, ?_⟩
  · rw [octetsIn, ← Int.natCast_add, Int.toNat_natCast, Int.toNat_natCast] at same
    rw [← same, List.drop_take, Nat.add_sub_cancel_left, List.append_assoc]
    rw [← List.drop_drop, List.take_append_drop, List.take_append_drop]
  · rw [List.length_take, length_encode]
    omega

end Utf8
end ProseCheck
