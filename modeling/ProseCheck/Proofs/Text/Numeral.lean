import Mathlib.Data.List.Induction
import ProseCheck.Text.Blank
import ProseCheck.Text.Digits
import ProseCheck.Text.Numeral

/-!
# The grammar of numerals

A numeral is read exactly if the grammar of numerals generates it, and then with the value that the
grammar gives it.  Plain hexadecimal digits are a numeral of their own value.
-/

namespace ProseCheck
namespace Numeral

variable {base : Nat}

/-- Digits in a base, by their values; a single low line may stand between two of them. -/
inductive IsDigits (base : Nat) : Text → List Nat → Prop where
  | last {char : Char} {digit : Nat} :
      digitIn? base char = some digit →
      IsDigits base [char] [digit]
  | cons {char : Char} {digit : Nat} {rest : Text} {digits : List Nat} :
      digitIn? base char = some digit →
      IsDigits base rest digits →
      IsDigits base (char :: rest) (digit :: digits)
  | lowLine {char : Char} {digit : Nat} {rest : Text} {digits : List Nat} :
      digitIn? base char = some digit →
      IsDigits base rest digits →
      IsDigits base (char :: '_' :: rest) (digit :: digits)

/-- The number that digits make of the one before them. -/
def extend (base total : Nat) (digits : List Nat) : Nat :=
  digits.foldl (fun total digit => total * base + digit) total

/-- What may stand for the sign of a numeral. -/
def signs : List Text := [[], ['+'], ['-']]

/-- What may stand for the mark of hexadecimal digits; one low line may follow it. -/
def marks : List Text := [[], ['0', 'x'], ['0', 'X'], ['0', 'x', '_'], ['0', 'X', '_']]

/-- A hexadecimal integer in ASCII as it may be written: a sign, a mark and digits, with blanks
around them. -/
inductive WritesHexadecimal : Text → Int → Prop where
  | mk {front sign mark written back : Text} {digits : List Nat} :
      (∀ char ∈ front, Text.isSpace char = true) →
      sign ∈ signs →
      mark ∈ marks →
      IsDigits 16 written digits →
      (∀ char ∈ back, Text.isSpace char = true) →
      WritesHexadecimal (front ++ (sign ++ (mark ++ written)) ++ back)
        (signed (sign == ['-']) (extend 16 0 digits))

theorem le_of_digitIn? {char : Char} {digit : Nat} (read : digitIn? base char = some digit) :
    '0'.toNat ≤ char.toNat := by
  have read_any : digitValue? char = some digit := (Option.filter_eq_some_iff.1 read).1
  unfold digitValue? at read_any
  split at read_any
  · rename_i small
    simp only [Bool.and_eq_true, decide_eq_true_eq, Char.le_def, UInt32.le_iff_toNat_le] at small
    exact Nat.le_trans (by decide) small.1
  · split at read_any
    · rename_i capital
      simp only [Bool.and_eq_true, decide_eq_true_eq, Char.le_def, UInt32.le_iff_toNat_le]
        at capital
      exact Nat.le_trans (by decide) capital.1
    · obtain ⟨first, found, -⟩ := Option.map_eq_some_iff.1 read_any
      have all_from_zero : ∀ first ∈ zeros, '0'.toNat ≤ first := by decide
      have within := List.find?_some found
      simp only [Bool.and_eq_true, decide_eq_true_eq] at within
      exact Nat.le_trans (all_from_zero first (List.mem_of_find?_eq_some found)) within.1

theorem digitIn?_lowLine : digitIn? base '_' = none := by
  have no_digit : digitValue? '_' = none := by decide
  rw [digitIn?, no_digit, Option.filter_none]

/-- Digits start with one, and so with no sign, blank or low line. -/
theorem IsDigits.exists_head {written : Text} {digits : List Nat}
    (is_digits : IsDigits base written digits) :
    ∃ char rest digit, written = char :: rest ∧ digitIn? base char = some digit := by
  cases is_digits with
  | last read => exact ⟨_, _, _, rfl, read⟩
  | cons read => exact ⟨_, _, _, rfl, read⟩
  | lowLine read => exact ⟨_, _, _, rfl, read⟩

theorem IsDigits.exists_last {written : Text} {digits : List Nat}
    (is_digits : IsDigits base written digits) :
    ∃ front char digit, written = front ++ [char] ∧ digitIn? base char = some digit := by
  induction is_digits with
  | last read => exact ⟨[], _, _, rfl, read⟩
  | @cons first _ _ _ _ _ induction =>
      obtain ⟨front, char, digit, rfl, read⟩ := induction
      exact ⟨first :: front, char, digit, rfl, read⟩
  | @lowLine first _ _ _ _ _ induction =>
      obtain ⟨front, char, digit, rfl, read⟩ := induction
      exact ⟨first :: '_' :: front, char, digit, rfl, read⟩

/-- Digits are read, after a low line as well. -/
theorem continue?_of_isDigits {written : Text} {digits : List Nat}
    (is_digits : IsDigits base written digits) (total : Nat) :
    continue? base total written = some (extend base total digits) ∧
      continue? base total ('_' :: written) = some (extend base total digits) := by
  induction is_digits generalizing total with
  | @last char digit read =>
      have plain : continue? base total [char] = some (total * base + digit) := by
        simp [continue?, read]
      exact ⟨plain, by simp [continue?, read, extend]⟩
  | @cons char digit rest digits read more induction =>
      have differs : char ≠ '_' := by
        rintro rfl
        simp [digitIn?_lowLine] at read
      have next := (induction (total * base + digit)).1
      refine ⟨?_, ?_⟩
      · rw [continue?]
        · simp only [read, next]
          rfl
        · rintro - - rfl
          contradiction
      · rw [continue?]
        simp only [read, next]
        rfl
  | @lowLine char digit rest digits read more induction =>
      have next := (induction (total * base + digit)).2
      refine ⟨?_, ?_⟩
      · rw [continue?]
        · simp only [read, next]
          rfl
        · rintro - - rfl
          simp [digitIn?_lowLine] at read
      · rw [continue?]
        simp only [read, next]
        rfl

/-- What is read behind a digit is nothing, or digits, perhaps after a low line. -/
theorem exists_isDigits_of_continue? {total value : Nat} {written : Text}
    (read : continue? base total written = some value) :
    (written = [] ∧ value = total) ∨
      ∃ digits, value = extend base total digits ∧
        (IsDigits base written digits ∨
          ∃ rest, written = '_' :: rest ∧ IsDigits base rest digits) := by
  fun_induction continue? base total written with
  | case1 total => exact .inl ⟨rfl, (Option.some.inj read).symm⟩
  | case2 total char rest digit digit_eq induction =>
      rcases induction read with ⟨rfl, rfl⟩ | ⟨digits, rfl, digits_eq | ⟨more, rfl, more_eq⟩⟩
      · exact .inr ⟨[digit], rfl, .inr ⟨_, rfl, .last digit_eq⟩⟩
      · exact .inr ⟨digit :: digits, rfl, .inr ⟨_, rfl, .cons digit_eq digits_eq⟩⟩
      · exact .inr ⟨digit :: digits, rfl, .inr ⟨_, rfl, .lowLine digit_eq more_eq⟩⟩
  | case3 => contradiction
  | case4 total char rest _ digit digit_eq induction =>
      rcases induction read with ⟨rfl, rfl⟩ | ⟨digits, rfl, digits_eq | ⟨more, rfl, more_eq⟩⟩
      · exact .inr ⟨[digit], rfl, .inl (.last digit_eq)⟩
      · exact .inr ⟨digit :: digits, rfl, .inl (.cons digit_eq digits_eq)⟩
      · exact .inr ⟨digit :: digits, rfl, .inl (.lowLine digit_eq more_eq)⟩
  | case5 => contradiction

theorem unsigned?_eq_some_iff {value : Nat} {written : Text} :
    unsigned? base written = some value ↔
      ∃ digits, IsDigits base written digits ∧ value = extend base 0 digits := by
  constructor
  · intro read
    cases written with
    | nil => contradiction
    | cons char rest =>
        obtain ⟨digit, digit_eq, rest_eq⟩ := Option.bind_eq_some_iff.1 read
        have total_eq (digits : List Nat) :
            extend base digit digits = extend base 0 (digit :: digits) := by
          simp [extend]
        rcases exists_isDigits_of_continue? rest_eq with
          ⟨rfl, rfl⟩ | ⟨digits, rfl, is_digits | ⟨more, rfl, is_digits⟩⟩
        · exact ⟨[value], .last digit_eq, by simp [extend]⟩
        · exact ⟨digit :: digits, .cons digit_eq is_digits, total_eq digits⟩
        · exact ⟨digit :: digits, .lowLine digit_eq is_digits, total_eq digits⟩
  · rintro ⟨digits, is_digits, rfl⟩
    cases is_digits with
    | last read => simp [unsigned?, read, continue?, extend]
    | @cons char digit rest digits read more =>
        have next := (continue?_of_isDigits more digit).1
        simpa [unsigned?, read, extend] using next
    | @lowLine char digit rest digits read more =>
        have next := (continue?_of_isDigits more digit).2
        simpa [unsigned?, read, extend] using next

theorem toLower_eq_x {char : Char} (lower_eq : char.toLower = 'x') : char = 'x' ∨ char = 'X' := by
  unfold Char.toLower at lower_eq
  split at lower_eq
  · rename_i capital
    right
    have bound : char.toNat ≤ 'Z'.toNat := UInt32.le_iff_toNat_le.1 capital.2
    have code_eq := congrArg Char.toNat lower_eq
    simp only [Char.reduceToNat] at bound
    simp at code_eq
    apply Char.toNat_inj.1
    simp only [Char.reduceToNat]
    omega
  · exact .inl lower_eq

/-- What is dropped in front of digits is the mark of their base. -/
theorem exists_mark (written : Text) :
    ∃ mark ∈ marks,
      written = mark ++ dropMark 'x' written := by
  unfold dropMark
  split
  · rename_i char rest
    split
    · rename_i lower_eq
      rcases toLower_eq_x lower_eq with rfl | rfl
      · split
        · exact ⟨['0', 'x', '_'], by simp [marks], rfl⟩
        · exact ⟨['0', 'x'], by simp [marks], rfl⟩
      · split
        · exact ⟨['0', 'X', '_'], by simp [marks], rfl⟩
        · exact ⟨['0', 'X'], by simp [marks], rfl⟩
    · exact ⟨[], by simp [marks], rfl⟩
  · exact ⟨[], by simp [marks], rfl⟩

/-- Of digits alone nothing is dropped: the letter of a mark is none of them. -/
theorem IsDigits.dropMark_eq {written : Text} {digits : List Nat}
    (is_digits : IsDigits 16 written digits) : dropMark 'x' written = written := by
  unfold dropMark
  split
  · rename_i char rest
    have differs : char.toLower ≠ 'x' := by
      intro lower_eq
      have unread : digitIn? 16 char = none ∧ char ≠ '_' := by
        rcases toLower_eq_x lower_eq with rfl | rfl <;> decide
      cases is_digits with
      | cons _ more =>
          obtain ⟨first, _, _, rest_eq, read⟩ := more.exists_head
          obtain rfl : char = first := (List.cons.inj rest_eq).1
          simp [unread.1] at read
      | lowLine => exact unread.2 rfl
    rw [if_neg differs]
  · rfl

theorem dropMark_mark {char : Char} (lower_eq : char.toLower = 'x') {written : Text}
    (head_ne : written.head? ≠ some '_') : dropMark 'x' ('0' :: char :: written) = written := by
  rw [dropMark, if_pos lower_eq]
  rintro digits rfl
  exact head_ne rfl

/-- The mark in front of digits is dropped. -/
theorem IsDigits.dropMark_append {mark written : Text} {digits : List Nat}
    (is_digits : IsDigits 16 written digits)
    (mark_mem : mark ∈ marks) :
    dropMark 'x' (mark ++ written) = written := by
  have head_ne : written.head? ≠ some '_' := by
    obtain ⟨first, _, _, rfl, read⟩ := is_digits.exists_head
    rintro head_eq
    obtain rfl : first = '_' := Option.some.inj head_eq
    simp [digitIn?_lowLine] at read
  simp only [marks, List.mem_cons, List.not_mem_nil, or_false] at mark_mem
  rcases mark_mem with rfl | rfl | rfl | rfl | rfl
  · exact is_digits.dropMark_eq
  · exact dropMark_mark rfl head_ne
  · exact dropMark_mark rfl head_ne
  · rfl
  · rfl

/-- A mark, or digits without one, starts with a digit. -/
theorem IsDigits.le_head {mark written : Text} {digits : List Nat}
    (is_digits : IsDigits 16 written digits)
    (mark_mem : mark ∈ marks) :
    ∀ char ∈ (mark ++ written).head?, '0'.toNat ≤ char.toNat := by
  obtain ⟨first, rest, digit, rfl, read⟩ := is_digits.exists_head
  simp only [marks, List.mem_cons, List.not_mem_nil, or_false] at mark_mem
  rcases mark_mem with rfl | rfl | rfl | rfl | rfl <;> rintro char ⟨⟩
  · exact le_of_digitIn? read
  all_goals exact Nat.le_refl _

theorem isSpace_of_le {char : Char} (le : '0'.toNat ≤ char.toNat) :
    Text.isSpace char = false := by
  simp only [Char.reduceToNat] at le
  have differs : char ≠ ' ' := by
    rintro rfl
    exact absurd le (by decide)
  simp [Text.isSpace, differs]
  omega

theorem exists_sign (written : Text) :
    ∃ front ∈ signs, written = front ++ (sign written).2 ∧
      (sign written).1 = (front == ['-']) := by
  unfold sign
  split
  · exact ⟨['-'], by simp [signs], rfl, rfl⟩
  · exact ⟨['+'], by simp [signs], rfl, rfl⟩
  · exact ⟨[], by simp [signs], rfl, rfl⟩

theorem sign_append {front rest : Text} (front_mem : front ∈ signs)
    (solid : ∀ char ∈ rest.head?, '0'.toNat ≤ char.toNat) :
    sign (front ++ rest) = (front == ['-'], rest) := by
  simp only [signs, List.mem_cons, List.not_mem_nil, or_false] at front_mem
  rcases front_mem with rfl | rfl | rfl
  · rw [List.nil_append, sign]
    · rfl
    · rintro rest rfl
      exact absurd (solid '-' rfl) (by decide)
    · rintro rest rfl
      exact absurd (solid '+' rfl) (by decide)
  · rfl
  · rfl

/-- Only the blanks around a numeral are taken off. -/
theorem IsDigits.trim_eq {front sign mark written back : Text} {digits : List Nat}
    (is_digits : IsDigits 16 written digits) (sign_mem : sign ∈ signs) (mark_mem : mark ∈ marks)
    (front_blank : ∀ char ∈ front, Text.isSpace char = true)
    (back_blank : ∀ char ∈ back, Text.isSpace char = true) :
    Text.trim Text.isSpace (front ++ (sign ++ (mark ++ written)) ++ back) =
      sign ++ (mark ++ written) := by
  refine Text.trim_append front_blank back_blank ?_ ?_
  · intro char head
    rw [List.head?_append, Option.mem_def, Option.or_eq_some_iff] at head
    rcases head with is_sign | ⟨-, unsigned⟩
    · simp only [signs, List.mem_cons, List.not_mem_nil, or_false] at sign_mem
      rcases sign_mem with rfl | rfl | rfl
      · contradiction
      · obtain rfl := Option.some.inj is_sign
        decide
      · obtain rfl := Option.some.inj is_sign
        decide
    · exact isSpace_of_le (is_digits.le_head mark_mem char unsigned)
  · obtain ⟨earlier, last, digit, rfl, read⟩ := is_digits.exists_last
    intro char end_eq
    rw [← List.append_assoc, ← List.append_assoc, List.getLast?_concat] at end_eq
    obtain rfl := Option.some.inj end_eq
    exact isSpace_of_le (le_of_digitIn? read)

/-- A numeral is read as hexadecimal exactly if it is written as such, once it is brought to
ASCII. -/
theorem hexadecimal?_eq_some_iff {text : Text} {value : Int} :
    hexadecimal? text = some value ↔ WritesHexadecimal (text.map plainChar) value := by
  have read_eq : hexadecimal? text = (unsigned? 16 (dropMark 'x' (sign (plain text)).2)).map
      (signed (sign (plain text)).1) := rfl
  rw [read_eq]
  constructor
  · intro read
    obtain ⟨front, back, text_eq, front_blank, back_blank⟩ :=
      Text.exists_trim Text.isSpace (text.map plainChar)
    obtain ⟨magnitude, magnitude_eq, rfl⟩ := Option.map_eq_some_iff.1 read
    obtain ⟨digits, is_digits, rfl⟩ := unsigned?_eq_some_iff.1 magnitude_eq
    obtain ⟨mark, mark_mem, rest_eq⟩ := exists_mark (sign (plain text)).2
    obtain ⟨sign, sign_mem, plain_eq, negative_eq⟩ := exists_sign (plain text)
    have written := WritesHexadecimal.mk front_blank sign_mem mark_mem is_digits back_blank
    rw [← rest_eq, ← plain_eq, plain, ← text_eq] at written
    rw [negative_eq]
    exact written
  · intro written
    generalize source_eq : text.map plainChar = source at written
    cases written with
    | mk front_blank sign_mem mark_mem is_digits back_blank =>
        rw [plain, source_eq, is_digits.trim_eq sign_mem mark_mem front_blank back_blank,
          sign_append sign_mem (is_digits.le_head mark_mem)]
        simp only [is_digits.dropMark_append mark_mem]
        rw [unsigned?_eq_some_iff.2 ⟨_, is_digits, rfl⟩, Option.map_some]

end Numeral

namespace Text

open Numeral

theorem hexValue?_eq_some {char : Char} {digit : Nat} (value_eq : hexValue? char = some digit) :
    digitIn? 16 char = some digit ∧ plainChar char = char := by
  have small : char.toNat < 0x80 := by
    simp only [hexValue?, Bool.and_eq_true, decide_eq_true_eq, Char.le_def,
      UInt32.le_iff_toNat_le] at value_eq
    show char.val.toNat < 0x80
    have bounds : '9'.val.toNat = 57 ∧ 'f'.val.toNat = 102 ∧ 'F'.val.toNat = 70 := by decide
    split at value_eq
    · omega
    · split at value_eq
      · omega
      · split at value_eq
        · omega
        · contradiction
  have same : ∀ code < 0x80, digitIn? 16 (Char.ofNat code) = hexValue? (Char.ofNat code) := by
    decide +kernel
  refine ⟨?_, if_pos small⟩
  rw [← Char.ofNat_toNat char] at value_eq ⊢
  rw [same _ small, value_eq]

/-- Hexadecimal digits, one at least, are a numeral without sign, mark and low lines. -/
theorem isDigits_of_map_hexValue? {written : Text} (nonempty : written ≠ []) {digits : List Nat}
    (digits_eq : written.map hexValue? = digits.map some) :
    IsDigits 16 written digits ∧ written.map plainChar = written := by
  induction written generalizing digits with
  | nil => contradiction
  | cons char rest induction =>
      cases digits with
      | nil => contradiction
      | cons digit digits =>
          rw [List.map_cons, List.map_cons] at digits_eq
          obtain ⟨char_eq, rest_eq⟩ := List.cons.inj digits_eq
          obtain ⟨read, plain_eq⟩ := hexValue?_eq_some char_eq
          rcases List.eq_nil_or_concat rest with rfl | ⟨front, last, rfl⟩
          · obtain rfl : digits = [] := by simpa using rest_eq.symm
            exact ⟨.last read, by rw [List.map_singleton, plain_eq]⟩
          · obtain ⟨more, more_eq⟩ := induction (by simp) rest_eq
            exact ⟨.cons read more, by rw [List.map_cons, plain_eq, more_eq]⟩

/-- The number of hexadecimal digits is that of their values. -/
theorem exists_of_hexNumber? {written : Text} {number : Nat}
    (number_eq : hexNumber? written = some number) :
    ∃ digits, written.map hexValue? = digits.map some ∧ number = extend 16 0 digits := by
  induction written using List.reverseRecOn generalizing number with
  | nil => exact ⟨[], rfl, (Option.some.inj number_eq).symm⟩
  | append_singleton written char induction =>
      rw [hexNumber?, List.foldl_append] at number_eq
      obtain ⟨high, high_eq, low_eq⟩ := Option.bind_eq_some_iff.1 number_eq
      obtain ⟨low, char_eq, sum_eq⟩ := Option.bind_eq_some_iff.1 low_eq
      obtain ⟨digits, digits_eq, rfl⟩ := induction high_eq
      refine ⟨digits ++ [low], by simp [digits_eq, char_eq], ?_⟩
      rw [← Option.some.inj sum_eq, extend, extend, List.foldl_append]
      rfl

/-- Hexadecimal digits, one at least, are a numeral of their number. -/
theorem hexadecimal?_of_hexNumber? {written : Text} (nonempty : written ≠ []) {number : Nat}
    (number_eq : hexNumber? written = some number) :
    hexadecimal? written = some (number : Int) := by
  obtain ⟨digits, digits_eq, rfl⟩ := exists_of_hexNumber? number_eq
  obtain ⟨is_digits, plain_eq⟩ := isDigits_of_map_hexValue? nonempty digits_eq
  have nothing : ∀ char ∈ ([] : Text), isSpace char = true := fun _ mem => by contradiction
  have written_eq := @WritesHexadecimal.mk [] [] [] written [] digits nothing (by simp [signs])
    (by simp [marks]) is_digits nothing
  rw [hexadecimal?_eq_some_iff, plain_eq]
  simpa [signed] using written_eq

end Text
end ProseCheck
