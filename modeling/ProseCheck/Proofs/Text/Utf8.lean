import ProseCheck.Slice
import ProseCheck.Text.Utf8

/-!
# Reading written octets

The first octet of a written character tells how many follow and which may come next, and the
octets that follow are among these.  The machine therefore reads every written character back as
that character, and a written text as that text.
-/

namespace ProseCheck
namespace Utf8

/-- A first octet of two. -/
theorem begin_two {high : Nat} (low_le : 2 ≤ high) (lt_bound : high < 0x20) :
    begin (0xC0 + high) = ([], some ⟨high, 1, 0x80, 0xBF⟩) := by
  unfold begin
  rw [if_neg (by omega), if_neg (by omega), if_pos (by omega), Nat.add_sub_cancel_left]

/-- A first octet of three; the bounds of the next one leave out long forms and surrogates. -/
theorem begin_three {high : Nat} (lt_bound : high < 0x10) :
    begin (0xE0 + high) =
      ([], some ⟨high, 2, if high = 0 then 0xA0 else 0x80, if high = 0xD then 0x9F else 0xBF⟩) := by
  unfold begin
  rw [if_neg (by omega), if_neg (by omega), if_neg (by omega)]
  by_cases least : high = 0
  · simp [least]
  · rw [if_neg (by omega)]
    by_cases surrogate : high = 0xD
    · simp [surrogate]
    · rw [if_neg (by omega), if_pos (by omega), if_neg least, if_neg surrogate,
        Nat.add_sub_cancel_left]

/-- A first octet of four; the bounds of the next one leave out long forms and what is beyond the
last code point. -/
theorem begin_four {high : Nat} (lt_bound : high < 5) :
    begin (0xF0 + high) =
      ([], some ⟨high, 3, if high = 0 then 0x90 else 0x80, if high = 4 then 0x8F else 0xBF⟩) := by
  unfold begin
  rw [if_neg (by omega), if_neg (by omega), if_neg (by omega), if_neg (by omega),
    if_neg (by omega), if_neg (by omega)]
  by_cases least : high = 0
  · simp [least]
  · rw [if_neg (by omega)]
    by_cases greatest : high = 4
    · simp [greatest]
    · rw [if_pos (by omega), if_neg least, if_neg greatest, Nat.add_sub_cancel_left]

theorem marks_begin {octet : Nat} {begun : Begun} (begins : begin octet = ([], some begun))
    (rest : List Nat) : marks none (octet :: rest) = marks (some begun) rest := by
  simp [marks, feed, begins]

/-- An octet that another one of the same character follows. -/
theorem marks_continue {value owed low high : Nat} (owes : owed ≠ 0) {digit : Nat}
    (low_le : low ≤ 0x80 + digit) (le_high : 0x80 + digit ≤ high) (rest : List Nat) :
    marks (some ⟨value, owed + 1, low, high⟩) ((0x80 + digit) :: rest) =
      marks (some ⟨value * 0x40 + digit, owed, 0x80, 0xBF⟩) rest := by
  simp [marks, feed, low_le, le_high, owes]

/-- The last octet of a character. -/
theorem marks_complete {value low high digit : Nat} (low_le : low ≤ 0x80 + digit)
    (le_high : 0x80 + digit ≤ high) (rest : List Nat) :
    marks (some ⟨value, 1, low, high⟩) ((0x80 + digit) :: rest) =
      some (Char.ofNat (value * 0x40 + digit)) :: marks none rest := by
  simp [marks, feed, low_le, le_high]

/-- A written character is read back. -/
theorem marks_encodeChar (char : Char) (rest : List Nat) :
    marks none (encodeChar char ++ rest) = some char :: marks none rest := by
  have valid : char.toNat < 0xD800 ∨ 0xDFFF < char.toNat ∧ char.toNat < 0x110000 := char.valid
  have char_eq {code : Nat} (code_eq : code = char.toNat) : Char.ofNat code = char := by
    rw [code_eq, Char.ofNat_toNat]
  have last : char.toNat % 0x40 < 0x40 := Nat.mod_lt _ (by decide)
  unfold encodeChar
  simp only
  split
  · rename_i one
    simp [marks, feed, begin, one]
  · split
    · rw [List.cons_append, marks_begin (begin_two (by omega) (by omega)), List.cons_append,
        marks_complete (by omega) (by omega), char_eq (by omega), List.nil_append]
    · split
      · have high_lt : char.toNat / 0x1000 < 0x10 := by omega
        rw [List.cons_append, marks_begin (begin_three high_lt), List.cons_append,
          marks_continue (by decide) (by split <;> omega) (by split <;> omega), List.cons_append,
          marks_complete (by omega) (by omega), char_eq (by omega), List.nil_append]
      · have high_lt : char.toNat / 0x40000 < 5 := by omega
        rw [List.cons_append, marks_begin (begin_four high_lt), List.cons_append,
          marks_continue (by decide) (by split <;> omega) (by split <;> omega), List.cons_append,
          marks_continue (by decide) (by omega) (by omega), List.cons_append,
          marks_complete (by omega) (by omega), char_eq (by omega), List.nil_append]

theorem marks_encode (text : Text) : marks none (encode text) = text.map some := by
  induction text with
  | nil => rfl
  | cons char rest induction =>
      rw [encode, List.flatMap_cons, marks_encodeChar, ← encode, induction, List.map_cons]

/-- A written text is read back. -/
theorem decode?_encode (text : Text) : decode? (encode text) = some text := by
  rw [decode?, marks_encode]
  induction text with
  | nil => rfl
  | cons char rest induction => simp [List.mapM_cons, induction]

/-- A character that was begun gives a mark, whatever follows. -/
theorem marks_some_ne_nil (begun : Begun) (octets : List Nat) : marks (some begun) octets ≠ [] := by
  induction octets generalizing begun with
  | nil => exact List.cons_ne_nil _ _
  | cons octet rest induction =>
      simp only [marks, feed]
      split
      · split
        · exact List.cons_ne_nil _ _
        · exact induction _
      · exact List.cons_ne_nil _ _

/-- More octets give no fewer marks. -/
theorem length_marks_append (state : Option Begun) (octets more : List Nat) :
    (marks state octets).length ≤ (marks state (octets ++ more)).length := by
  induction octets generalizing state with
  | nil =>
      cases state with
      | none => exact Nat.zero_le _
      | some begun => exact List.length_pos_iff.2 (marks_some_ne_nil begun more)
  | cons octet rest induction =>
      have := induction (feed state octet).2
      simp only [List.cons_append, marks, List.length_append]
      omega

/-- More octets show as no fewer characters. -/
theorem length_decodeLossy_le {octets more : List Nat} (shorter : octets <+: more) :
    (decodeLossy octets).length ≤ (decodeLossy more).length := by
  obtain ⟨rest, rfl⟩ := shorter
  rw [decodeLossy, decodeLossy, List.length_map, List.length_map]
  exact length_marks_append none octets rest

/-- The octets of a part of a written text are those of the part. -/
theorem between_encode_append (before part after : Text) :
    Slice.between (encode (before ++ part ++ after)) (size before : Int)
        (size (before ++ part) : Int) = encode part := by
  rw [Slice.between_natCast, encode_append, encode_append, ← length_encode (before ++ part),
    encode_append, List.take_left, List.length_append, List.length_append, ← length_encode before,
    Nat.min_eq_left (by omega), List.drop_left]

theorem decode?_between (before part after : Text) :
    decode? (Slice.between (encode (before ++ part ++ after)) (size before : Int)
        (size (before ++ part) : Int)) = some part := by
  rw [between_encode_append, decode?_encode]

end Utf8
end ProseCheck

/-!
## Octets that are read

The bounds that a begun octet sets for the next one leave out long forms, surrogates and what is
beyond the last code point.  A character that the machine completes is therefore written as the
octets that were read, so octets are read as a text exactly if that text is written as they are.
-/

namespace ProseCheck
namespace Utf8

/-- The octet that completes a character. -/
theorem exists_of_marks_complete {value low high : Nat} {octets : List Nat} {char : Char}
    {others : List (Option Char)} (tail : 0x80 ≤ low)
    (marked : marks (some ⟨value, 1, low, high⟩) octets = some char :: others) :
    ∃ digit rest, octets = (0x80 + digit) :: rest ∧ low ≤ 0x80 + digit ∧ 0x80 + digit ≤ high ∧
      char = Char.ofNat (value * 0x40 + digit) ∧ marks none rest = others := by
  cases octets with
  | nil => simp [marks] at marked
  | cons octet rest =>
      rw [marks] at marked
      by_cases inside : low ≤ octet ∧ octet ≤ high
      · obtain ⟨digit, rfl⟩ := Nat.exists_eq_add_of_le (Nat.le_trans tail inside.1)
        refine ⟨digit, rest, rfl, inside.1, inside.2, ?_⟩
        simpa [feed, inside, eq_comm] using marked
      · simp [feed, inside] at marked

/-- An octet of a character that another one follows. -/
theorem exists_of_marks_continue {value owed low high : Nat} {octets : List Nat} {char : Char}
    {others : List (Option Char)} (tail : 0x80 ≤ low) (owes : owed ≠ 0)
    (marked : marks (some ⟨value, owed + 1, low, high⟩) octets = some char :: others) :
    ∃ digit rest, octets = (0x80 + digit) :: rest ∧ low ≤ 0x80 + digit ∧ 0x80 + digit ≤ high ∧
      marks (some ⟨value * 0x40 + digit, owed, 0x80, 0xBF⟩) rest = some char :: others := by
  cases octets with
  | nil => simp [marks] at marked
  | cons octet rest =>
      rw [marks] at marked
      by_cases inside : low ≤ octet ∧ octet ≤ high
      · obtain ⟨digit, rfl⟩ := Nat.exists_eq_add_of_le (Nat.le_trans tail inside.1)
        refine ⟨digit, rest, rfl, inside.1, inside.2, ?_⟩
        simpa [feed, inside, owes] using marked
      · simp [feed, inside] at marked

/-- The octets of a character by its code. -/
theorem encodeChar_ofNat {code : Nat} (valid : code.isValidChar) : encodeChar (Char.ofNat code) =
    if code < 0x80 then [code]
    else if code < 0x800 then [0xC0 + code / 0x40, 0x80 + code % 0x40]
    else if code < 0x10000 then
      [0xE0 + code / 0x1000, 0x80 + code / 0x40 % 0x40, 0x80 + code % 0x40]
    else
      [0xF0 + code / 0x40000, 0x80 + code / 0x1000 % 0x40, 0x80 + code / 0x40 % 0x40,
        0x80 + code % 0x40] := by
  have toNat_eq : (Char.ofNat code).toNat = code := by
    rw [Char.ofNat, dif_pos valid]
    rfl
  rw [encodeChar, toNat_eq]

theorem encodeChar_two {high last : Nat} (low_le : 2 ≤ high) (high_lt : high < 0x20)
    (last_lt : last < 0x40) :
    encodeChar (Char.ofNat (high * 0x40 + last)) = [0xC0 + high, 0x80 + last] := by
  rw [encodeChar_ofNat (.inl (by omega)), if_neg (by omega), if_pos (by omega)]
  congr <;> omega

theorem encodeChar_three {high middle last : Nat} (high_lt : high < 0x10)
    (middle_lt : middle < 0x40) (last_lt : last < 0x40) (no_long : high = 0 → 0x20 ≤ middle)
    (no_surrogate : high = 0xD → middle < 0x20) :
    encodeChar (Char.ofNat ((high * 0x40 + middle) * 0x40 + last)) =
      [0xE0 + high, 0x80 + middle, 0x80 + last] := by
  have valid : ((high * 0x40 + middle) * 0x40 + last).isValidChar := by
    unfold Nat.isValidChar
    omega
  rw [encodeChar_ofNat valid, if_neg (by omega), if_neg (by omega), if_pos (by omega)]
  congr <;> omega

theorem encodeChar_four {high second third last : Nat} (high_le : high ≤ 4)
    (second_lt : second < 0x40) (third_lt : third < 0x40) (last_lt : last < 0x40)
    (no_long : high = 0 → 0x10 ≤ second) (no_excess : high = 4 → second < 0x10) :
    encodeChar (Char.ofNat (((high * 0x40 + second) * 0x40 + third) * 0x40 + last)) =
      [0xF0 + high, 0x80 + second, 0x80 + third, 0x80 + last] := by
  have valid : (((high * 0x40 + second) * 0x40 + third) * 0x40 + last).isValidChar := by
    unfold Nat.isValidChar
    omega
  rw [encodeChar_ofNat valid, if_neg (by omega), if_neg (by omega), if_neg (by omega)]
  congr <;> omega

/-- The characters that a machine may begin with an octet. -/
theorem begin_cases (octet : Nat) :
    octet < 0x80 ∧ begin octet = ([some (Char.ofNat octet)], none) ∨
    begin octet = ([none], none) ∨
    (∃ high, octet = 0xC0 + high ∧ 2 ≤ high ∧ high < 0x20) ∨
    (∃ high, octet = 0xE0 + high ∧ high < 0x10) ∨
    ∃ high, octet = 0xF0 + high ∧ high < 5 := by
  by_cases one : octet < 0x80
  · exact .inl ⟨one, by rw [begin, if_pos one]⟩
  · by_cases two : 0xC2 ≤ octet ∧ octet < 0xE0
    · exact .inr (.inr (.inl ⟨octet - 0xC0, by omega⟩))
    · by_cases three : 0xE0 ≤ octet ∧ octet < 0xF0
      · exact .inr (.inr (.inr (.inl ⟨octet - 0xE0, by omega⟩)))
      · by_cases four : 0xF0 ≤ octet ∧ octet < 0xF5
        · exact .inr (.inr (.inr (.inr ⟨octet - 0xF0, by omega⟩)))
        · refine .inr (.inl ?_)
          by_cases low : octet < 0xC2
          · rw [begin, if_neg one, if_pos low]
          · rw [begin, if_neg one, if_neg low, if_neg (by omega), if_neg (by omega),
              if_neg (by omega), if_neg (by omega), if_neg (by omega), if_neg (by omega),
              if_neg (by omega)]

/-- A text that octets are read as begins with a character that is written as they begin. -/
theorem exists_of_marks_cons {octets : List Nat} {char : Char} {others : List (Option Char)}
    (marked : marks none octets = some char :: others) :
    ∃ rest, octets = encodeChar char ++ rest ∧ marks none rest = others := by
  cases octets with
  | nil => simp [marks] at marked
  | cons first rest =>
      rcases begin_cases first with
        ⟨one, begins⟩ | nothing | ⟨high, rfl, low_le, high_lt⟩ | ⟨high, rfl, high_lt⟩ |
          ⟨high, rfl, high_lt⟩
      · simp only [marks, feed, begins, List.singleton_append, List.cons.injEq,
          Option.some.injEq] at marked
        obtain ⟨rfl, rest_eq⟩ := marked
        refine ⟨rest, ?_, rest_eq⟩
        rw [encodeChar_ofNat (.inl (by omega)), if_pos one]
        rfl
      · simp [marks, feed, nothing] at marked
      · rw [marks_begin (begin_two low_le high_lt)] at marked
        obtain ⟨last, rest, rfl, -, last_le, rfl, rest_eq⟩ :=
          exists_of_marks_complete (Nat.le_refl _) marked
        refine ⟨rest, ?_, rest_eq⟩
        rw [encodeChar_two low_le high_lt (by omega)]
        rfl
      · rw [marks_begin (begin_three high_lt)] at marked
        obtain ⟨middle, rest, rfl, low_le, le_high, more⟩ :=
          exists_of_marks_continue (by split <;> omega) (by decide) marked
        obtain ⟨last, rest, rfl, -, last_le, rfl, rest_eq⟩ :=
          exists_of_marks_complete (Nat.le_refl _) more
        refine ⟨rest, ?_, rest_eq⟩
        rw [encodeChar_three high_lt (by split at le_high <;> omega) (by omega)
          (by split at low_le <;> omega) (by split at le_high <;> omega)]
        rfl
      · rw [marks_begin (begin_four high_lt)] at marked
        obtain ⟨second, rest, rfl, low_le, le_high, more⟩ :=
          exists_of_marks_continue (by split <;> omega) (by decide) marked
        obtain ⟨third, rest, rfl, -, third_le, more⟩ :=
          exists_of_marks_continue (Nat.le_refl _) (by decide) more
        obtain ⟨last, rest, rfl, -, last_le, rfl, rest_eq⟩ :=
          exists_of_marks_complete (Nat.le_refl _) more
        refine ⟨rest, ?_, rest_eq⟩
        rw [encodeChar_four (by omega) (by split at le_high <;> omega) (by omega) (by omega)
          (by split at low_le <;> omega) (by split at le_high <;> omega)]
        rfl

/-- Octets give marks. -/
theorem marks_none_ne_nil (octet : Nat) (rest : List Nat) : marks none (octet :: rest) ≠ [] := by
  rcases begin_cases octet with
    ⟨-, begins⟩ | begins | ⟨high, rfl, low_le, high_lt⟩ | ⟨high, rfl, high_lt⟩ |
      ⟨high, rfl, high_lt⟩
  · simp [marks, feed, begins]
  · simp [marks, feed, begins]
  · rw [marks_begin (begin_two low_le high_lt)]
    exact marks_some_ne_nil _ rest
  · rw [marks_begin (begin_three high_lt)]
    exact marks_some_ne_nil _ rest
  · rw [marks_begin (begin_four high_lt)]
    exact marks_some_ne_nil _ rest

/-- What octets are read as is written as they are. -/
theorem encode_of_marks {octets : List Nat} {text : Text}
    (marked : marks none octets = text.map some) : octets = encode text := by
  induction text generalizing octets with
  | nil =>
      cases octets with
      | nil => rfl
      | cons octet rest => exact absurd marked (marks_none_ne_nil octet rest)
  | cons char text induction =>
      obtain ⟨rest, rfl, rest_eq⟩ := exists_of_marks_cons marked
      rw [induction rest_eq]
      rfl

theorem map_some_of_mapM_id {marks : List (Option Char)} {text : Text}
    (complete : marks.mapM id = some text) : marks = text.map some := by
  induction marks generalizing text with
  | nil =>
      obtain rfl := Option.some.inj complete
      rfl
  | cons mark rest induction =>
      rw [List.mapM_cons] at complete
      obtain ⟨char, rfl, later⟩ := Option.bind_eq_some_iff.1 complete
      obtain ⟨chars, chars_eq, text_eq⟩ := Option.bind_eq_some_iff.1 later
      obtain rfl := Option.some.inj text_eq
      rw [induction chars_eq, List.map_cons]

/-- Octets are read as a text exactly if the text is written so. -/
theorem decode?_eq_some_iff {octets : List Nat} {text : Text} :
    decode? octets = some text ↔ octets = encode text := by
  constructor
  · intro read
    exact encode_of_marks (map_some_of_mapM_id read)
  · rintro rfl
    exact decode?_encode text

end Utf8
end ProseCheck
