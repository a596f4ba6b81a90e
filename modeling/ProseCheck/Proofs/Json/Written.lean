import ProseCheck.Json.Reader
import ProseCheck.Json.Writer
import Mathlib.Tactic.IntervalCases

/-!
# Reading back what was written

A string is read back whatever characters are written as they are, as long as no control is one of
them, and an integer is unless it has too many digits.
-/

namespace ProseCheck

namespace Text

theorem hexValue?_hexDigit : ∀ value < 16, hexValue? (hexDigit value) = some value := by
  decide

theorem hexNumber?_append_digit {digits : Text} {digit : Char} {high low : Nat}
    (digits_eq : hexNumber? digits = some high) (digit_eq : hexValue? digit = some low) :
    hexNumber? (digits ++ [digit]) = some (high * 16 + low) := by
  rw [hexNumber?] at digits_eq ⊢
  rw [List.foldl_append, digits_eq, List.foldl_cons, digit_eq]
  rfl

/-- Enough digits of a number are read back as the number. -/
theorem hexNumber?_hexDigits {count value : Nat} (fits : value < 16 ^ count) :
    hexNumber? (hexDigits count value) = some value := by
  induction count generalizing value with
  | zero =>
      obtain rfl : value = 0 := by simpa using fits
      rfl
  | succ count induction =>
      have high_fits : value / 16 < 16 ^ count := by
        rw [Nat.pow_succ] at fits
        omega
      have low_small : value % 16 < 16 := Nat.mod_lt value (by omega)
      rw [hexDigits, hexNumber?_append_digit (induction high_fits) (hexValue?_hexDigit _ low_small),
        Nat.div_add_mod']

end Text

namespace Json

open Reader

/-! ## Code points -/

/-- No character stands for half a pair of units. -/
theorem toNat_ranges (char : Char) :
    char.toNat < 0xD800 ∨ 0xDFFF < char.toNat ∧ char.toNat < 0x110000 := char.valid

theorem isHalf_toNat (char : Char) : isHalf char.toNat = false := by
  have ranges := toNat_ranges char
  simp only [isHalf, Bool.and_eq_false_iff, decide_eq_false_iff_not]
  omega

/-- A text is shown as it is. -/
@[simp]
theorem shown_map_toNat (value : Text) : shown (value.map Char.toNat) = value := by
  rw [shown, List.map_map]
  refine List.map_id'' (fun char => ?_) value
  rw [Function.comp_apply, charOf, isHalf_toNat, if_neg Bool.false_ne_true, Char.ofNat_toNat]

/-- The code points of a text are those of a string that is a text. -/
@[simp]
theorem ofCodes_map_toNat (value : Text) : ofCodes (value.map Char.toNat) = .text value := by
  have whole : (value.map Char.toNat).any isHalf = false := by simp [isHalf_toNat]
  rw [ofCodes, whole, if_neg Bool.false_ne_true, shown_map_toNat]

namespace Reader

/-- A unit is read back from its four digits. -/
theorem unit?_hexDigits {unit : Nat} (small : unit < 0x10000) {rest : Text} :
    unit? (Text.hexDigits 4 unit ++ rest) = some (unit, rest) := by
  have digits_eq := Text.hexNumber?_hexDigits (show unit < 16 ^ 4 from small)
  generalize written_eq : Text.hexDigits 4 unit = written at digits_eq ⊢
  have length_eq : written.length = 4 := by rw [← written_eq, Text.length_hexDigits]
  match written, length_eq with
  | [_, _, _, _], _ =>
      simp only [List.cons_append, List.nil_append, unit?, digits_eq, Option.map_some]

theorem escapedUnit?_of_small {char : Char} (small : char.toNat < 0x10000) {rest : Text} :
    escapedUnit? (Text.hexDigits 4 char.toNat ++ rest) = some (char.toNat, rest) := by
  have ranges := toNat_ranges char
  have notHigh : isHigh char.toNat = false := by
    simp only [isHigh, Bool.and_eq_false_iff, decide_eq_false_iff_not]
    omega
  rw [escapedUnit?, unit?_hexDigits small]
  simp [notHigh]

theorem escapedUnit?_pair {high low : Nat} (high_small : high < 0x400) (low_small : low < 0x400)
    (rest : Text) :
    escapedUnit? (Text.hexDigits 4 (0xD800 + high) ++
        '\\' :: 'u' :: (Text.hexDigits 4 (0xDC00 + low) ++ rest)) =
      some (0x10000 + high * 0x400 + low, rest) := by
  have isHigh_high : isHigh (0xD800 + high) = true := by
    simp [isHigh]
    omega
  have isLow_low : isLow (0xDC00 + low) = true := by
    simp [isLow]
    omega
  rw [escapedUnit?, unit?_hexDigits (by omega)]
  simp only [Option.bind_eq_bind, Option.bind_some, isHigh_high, if_true]
  rw [unit?_hexDigits (by omega)]
  simp [isLow_low]

/-- What a character is written as by its code leads back to it. -/
theorem escaped?_escapeCode (char : Char) (rest : Text) :
    ∃ written, Writer.escapeCode char = '\\' :: written ∧
      escaped? (written ++ rest) = some (char.toNat, rest) := by
  rw [Writer.escapeCode]
  by_cases small : char.toNat < 0x10000
  · rw [if_pos small]
    exact ⟨_, rfl, escapedUnit?_of_small small⟩
  · rw [if_neg small]
    have ranges := toNat_ranges char
    have high_small : (char.toNat - 0x10000) / 0x400 < 0x400 := by omega
    have low_small : (char.toNat - 0x10000) % 0x400 < 0x400 := Nat.mod_lt _ (by omega)
    have code_eq : 0x10000 + (char.toNat - 0x10000) / 0x400 * 0x400 +
        (char.toNat - 0x10000) % 0x400 = char.toNat := by omega
    have pair := escapedUnit?_pair high_small low_small rest
    rw [code_eq] at pair
    refine ⟨'u' :: (Text.hexDigits 4 _ ++ Writer.escapeUnit _), rfl, ?_⟩
    rw [List.cons_append, List.append_assoc]
    exact pair

theorem string?_escape {fuel code : Nat} {written rest : Text}
    (escaped : escaped? written = some (code, rest)) :
    string? (fuel + 1) ('\\' :: written) =
      (string? fuel rest).map fun (codes, rest) => (code :: codes, rest) := by
  rw [string?, if_neg (by decide), if_pos rfl]
  cases found : string? fuel rest <;> simp [escaped, found]

variable {keeps : Char → Bool}

/-- A character is read back as it was written. -/
theorem string?_char (spares : ∀ char, keeps char → 0x20 ≤ char.toNat) {fuel : Nat} {char : Char}
    {rest : Text} : string? (fuel + 1) (Writer.char keeps char ++ rest) =
      (string? fuel rest).map fun (codes, rest) => (char.toNat :: codes, rest) := by
  unfold Writer.char
  split_ifs with quote backslash line cursor tab back form kept
  · subst quote
    exact string?_escape rfl
  · subst backslash
    exact string?_escape rfl
  · subst line
    exact string?_escape rfl
  · subst cursor
    exact string?_escape rfl
  · subst tab
    exact string?_escape rfl
  · subst back
    exact string?_escape rfl
  · subst form
    exact string?_escape rfl
  · rw [List.singleton_append, string?, if_neg quote, if_neg backslash,
      if_neg (Nat.not_lt.2 (spares char kept))]
    cases string? fuel rest <;> rfl
  · obtain ⟨written, written_eq, escaped⟩ := escaped?_escapeCode char rest
    rw [written_eq, List.cons_append]
    exact string?_escape escaped

/-- A string is read back up to its closing quote, whatever follows. -/
theorem string?_string (spares : ∀ char, keeps char → 0x20 ≤ char.toNat) {value rest : Text}
    {fuel : Nat} (enough : value.length < fuel) :
    string? fuel (value.flatMap (Writer.char keeps) ++ '"' :: rest) =
      some (value.map Char.toNat, rest) := by
  induction value generalizing fuel with
  | nil =>
      obtain ⟨fuel, rfl⟩ := Nat.exists_eq_add_one.2 enough
      rw [List.flatMap_nil, List.nil_append, string?, if_pos rfl, List.map_nil]
  | cons char value induction =>
      obtain ⟨fuel, rfl⟩ := Nat.exists_eq_add_one.2 (Nat.zero_lt_of_lt enough)
      rw [List.flatMap_cons, List.append_assoc, string?_char spares,
        induction (by simpa using enough)]
      rfl

/-- What follows an integer and does not go on with it. -/
def EndsNumber (rest : Text) : Prop :=
  ∀ char ∈ rest.head?, ¬char.isDigit ∧ char ≠ '.' ∧ char ≠ 'e' ∧ char ≠ 'E'

theorem endsNumber_nil : EndsNumber [] := fun char head => by contradiction

theorem digitsValue_digits (number : Nat) : digitsValue (Numeral.digits number) = number := by
  have value_eq := Nat.ofDigitChars_toDigits (b := 10) (n := number) (by decide) (by decide)
  simpa only [digitsValue, Numeral.digits, Nat.ofDigitChars, Nat.mul_comm] using value_eq

theorem isDigit_of_mem_digits {number : Nat} {char : Char}
    (mem : char ∈ Numeral.digits number) : char.isDigit :=
  Nat.isDigit_of_mem_toDigits (by decide) (by decide) mem

/-- Digits start with one of them, which is zero for zero only. -/
theorem digits_eq_cons (number : Nat) :
    ∃ first more, Numeral.digits number = first :: more ∧ first.isDigit ∧
      (first = '0' → number = 0) := by
  induction number using Nat.strongRecOn with
  | ind number induction =>
      by_cases small : number < 10
      · refine ⟨number.digitChar, [], Nat.toDigits_of_lt_base small, ?_⟩
        interval_cases number <;> decide
      · obtain ⟨first, more, digits_eq, isDigit, zero⟩ := induction (number / 10) (by omega)
        refine ⟨first, more ++ [(number % 10).digitChar], ?_, isDigit, fun first_eq => ?_⟩
        · rw [Numeral.digits, Nat.toDigits_of_base_le (by decide) (by omega)]
          exact congrArg (· ++ _) digits_eq
        · have := zero first_eq
          omega

theorem digits_append {found rest : Text} (all : ∀ char ∈ found, char.isDigit)
    (ends : ∀ char ∈ rest.head?, ¬char.isDigit) : digits (found ++ rest) = (found, rest) := by
  rw [digits, List.takeWhile_append_of_pos all, List.dropWhile_append_of_pos all]
  cases rest with
  | nil => simp
  | cons char rest =>
      have other := ends char rfl
      rw [List.takeWhile_cons_of_neg other, List.dropWhile_cons_of_neg other, List.append_nil]

theorem whole?_digits {number : Nat} {rest : Text} (ends : EndsNumber rest) :
    whole? (Numeral.digits number ++ rest) = some (Numeral.digits number, rest) := by
  rcases Nat.eq_zero_or_pos number with rfl | positive
  · rfl
  · obtain ⟨first, more, digits_eq, -, zero⟩ := digits_eq_cons number
    have all : ∀ char ∈ Numeral.digits number, char.isDigit := fun _ => isDigit_of_mem_digits
    have found := digits_append all fun char head => (ends char head).1
    unfold whole?
    split
    · rename_i input_eq
      rw [digits_eq, List.cons_append] at input_eq
      have := zero (List.cons.inj input_eq).1
      omega
    · rw [found, digits_eq]

theorem fraction_of_ends {rest : Text} (ends : EndsNumber rest) : fraction rest = ([], rest) := by
  unfold fraction
  split
  · exact absurd rfl (ends '.' rfl).2.1
  · rfl

theorem exponent?_of_ends {rest : Text} (ends : EndsNumber rest) : exponent? rest = none := by
  cases rest with
  | nil => rfl
  | cons char rest =>
      obtain ⟨-, -, small, capital⟩ := ends char rfl
      simp [exponent?, small, capital]

/-- An integer is read back from its digits, unless they are too many. -/
theorem unsigned_digits {negative : Bool} {number : Nat} {rest : Text} (ends : EndsNumber rest) :
    unsigned negative (Numeral.digits number ++ rest) =
      if (Numeral.digits number).length > Numeral.digitLimit then .error .oversized
      else .ok (.int (Numeral.signed negative number), rest) := by
  rw [unsigned, whole?_digits ends]
  simp only [fraction_of_ends ends, exponent?_of_ends ends, digitsValue_digits]
  rfl

theorem plain_of_isDigit {first : Char} {rest : Text} (isDigit : first.isDigit) :
    plain (first :: rest) = unsigned false (first :: rest) := by
  unfold plain
  split <;> simp_all

theorem plain_of_minus {first : Char} {rest : Text} (isDigit : first.isDigit) :
    plain ('-' :: first :: rest) = unsigned true (first :: rest) := by
  unfold plain
  split <;> simp_all

theorem plain_write {number : Int} {rest : Text} (ends : EndsNumber rest) :
    plain (Numeral.write number ++ rest) =
      if (Numeral.digits number.natAbs).length > Numeral.digitLimit then .error .oversized
      else .ok (.int number, rest) := by
  obtain ⟨first, more, digits_eq, isDigit, -⟩ := digits_eq_cons number.natAbs
  cases number with
  | ofNat number =>
      calc plain (Numeral.digits number ++ rest)
        _ = plain (first :: (more ++ rest)) :=
          congrArg (fun written => plain (written ++ rest)) digits_eq
        _ = unsigned false (first :: (more ++ rest)) := plain_of_isDigit isDigit
        _ = unsigned false (Numeral.digits number ++ rest) :=
          congrArg (fun written => unsigned false (written ++ rest)) digits_eq.symm
        _ = _ := unsigned_digits ends
  | negSucc number =>
      calc plain ('-' :: (Numeral.digits (number + 1) ++ rest))
        _ = plain ('-' :: first :: (more ++ rest)) :=
          congrArg (fun written => plain ('-' :: (written ++ rest))) digits_eq
        _ = unsigned true (first :: (more ++ rest)) := plain_of_minus isDigit
        _ = unsigned true (Numeral.digits (number + 1) ++ rest) :=
          congrArg (fun written => unsigned true (written ++ rest)) digits_eq.symm
        _ = _ := unsigned_digits ends

theorem skip_cons {char : Char} {rest : Text}
    (solid : ¬ (char == ' ' || char == '\t' || char == '\n' || char == '\r')) :
    skip (char :: rest) = char :: rest := List.dropWhile_cons_of_neg solid

/-- A string is read back as a value, whatever follows it. -/
theorem value_string {keeps : Char → Bool} (spares : ∀ char, keeps char → 0x20 ≤ char.toNat)
    {fuel depth : Nat} {written rest : Text} (enough : written.length ≤ fuel) :
    value (fuel + 1) depth (Writer.string keeps written ++ rest) = .ok (.text written, rest) := by
  rw [Writer.string, List.cons_append, List.append_assoc, List.singleton_append, value,
    skip_cons (by decide)]
  simp only [string?_string spares (Nat.lt_succ_of_le enough), ofCodes_map_toNat]

theorem value_of_number {fuel depth : Nat} {first : Char} {rest : Text}
    (starts : first = '-' ∨ first.isDigit) :
    value (fuel + 1) depth (first :: rest) = plain (first :: rest) := by
  have solid : ¬(first == ' ' || first == '\t' || first == '\n' || first == '\r') := by
    intro blank
    simp only [Bool.or_eq_true, beq_iff_eq] at blank
    rcases blank with ((rfl | rfl) | rfl) | rfl <;> simp at starts
  rw [value, skip_cons solid]
  split <;> simp_all

theorem write_eq_cons (number : Int) : ∃ first more, Numeral.write number = first :: more ∧
    (first = '-' ∨ first.isDigit) := by
  cases number with
  | ofNat number =>
      obtain ⟨first, more, digits_eq, isDigit, -⟩ := digits_eq_cons number
      exact ⟨first, more, digits_eq, .inr isDigit⟩
  | negSucc number => exact ⟨'-', Numeral.digits (number + 1), rfl, .inl rfl⟩

/-- An integer is read back as a value, unless it has too many digits. -/
theorem value_write {fuel depth : Nat} {number : Int} {rest : Text} (ends : EndsNumber rest) :
    value (fuel + 1) depth (Numeral.write number ++ rest) =
      if (Numeral.digits number.natAbs).length > Numeral.digitLimit then .error .oversized
      else .ok (.int number, rest) := by
  obtain ⟨first, more, write_eq, starts⟩ := write_eq_cons number
  rw [← plain_write ends, write_eq, List.cons_append, value_of_number starts]

end Reader

theorem read_of_value {input : Text} {value : Json}
    (value_eq : Reader.value (input.length + 1) depthLimit input = .ok (value, [])) :
    read input = .ok value := by
  rw [read, value_eq]
  rfl

theorem read_of_trouble {input : Text} {trouble : Trouble}
    (value_eq : Reader.value (input.length + 1) depthLimit input = .error trouble) :
    read input = .error trouble := by
  rw [read, value_eq]
  rfl

theorem le_of_isPrintableAscii (char : Char) (printable : Writer.isPrintableAscii char) :
    0x20 ≤ char.toNat := by
  simp only [Writer.isPrintableAscii, Bool.and_eq_true, decide_eq_true_eq] at printable
  exact printable.1

theorem length_le_string (keeps : Char → Bool) (value : Text) :
    value.length ≤ (Writer.string keeps value).length := by
  have char_pos (char : Char) : 1 ≤ (Writer.char keeps char).length := by
    obtain ⟨written, code_eq, -⟩ := escaped?_escapeCode char []
    unfold Writer.char
    split_ifs <;> simp [code_eq]
  have body_le : value.length ≤ (value.flatMap (Writer.char keeps)).length := by
    induction value with
    | nil => exact Nat.le_refl 0
    | cons char value induction =>
        have := char_pos char
        rw [List.flatMap_cons, List.length_append, List.length_cons]
        omega
  rw [Writer.string, List.length_cons, List.length_append]
  omega

theorem read_string {keeps : Char → Bool} (spares : ∀ char, keeps char → 0x20 ≤ char.toNat)
    (value : Text) : read (Writer.string keeps value) = .ok (.text value) := by
  apply read_of_value
  rw [← List.append_nil (Writer.string keeps value)]
  exact value_string spares (by simpa using length_le_string keeps value)

theorem read_write (number : Int) : read (Numeral.write number) =
    if (Numeral.digits number.natAbs).length > Numeral.digitLimit then .error .oversized
    else .ok (.int number) := by
  have value_eq : Reader.value ((Numeral.write number).length + 1) depthLimit
      (Numeral.write number ++ []) = _ := value_write endsNumber_nil
  rw [List.append_nil] at value_eq
  split_ifs at value_eq ⊢
  · exact read_of_trouble value_eq
  · exact read_of_value value_eq

/-! ## Values that a computation tells -/

mutual

/-- Whether two values are told to be the same.  Of doubles and foreign values it is not told. -/
def isSame : Json → Json → Bool
  | .null, .null => true
  | .bool left, .bool right => left == right
  | .int left, .int right => left == right
  | .str left, .str right => left == right
  | .arr left, .arr right => areSame left right
  | .obj left, .obj right => haveSame left right
  | _, _ => false

/-- Whether the values of two lists are told to be the same one by one. -/
def areSame : List Json → List Json → Bool
  | [], [] => true
  | left :: lefts, right :: rights => isSame left right && areSame lefts rights
  | _, _ => false

/-- Whether the members of two lists are told to be the same one by one. -/
def haveSame : Members → Members → Bool
  | [], [] => true
  | (name, left) :: lefts, (other, right) :: rights =>
    name == other && isSame left right && haveSame lefts rights
  | _, _ => false

end

mutual

theorem eq_of_isSame {left right : Json} (same : isSame left right = true) : left = right := by
  cases left <;> cases right <;> simp_all [isSame]
  case arr lefts rights => exact eq_of_areSame same
  case obj lefts rights => exact eq_of_haveSame same

theorem eq_of_areSame {lefts rights : List Json} (same : areSame lefts rights = true) :
    lefts = rights := by
  cases lefts <;> cases rights <;> simp_all [areSame]
  exact ⟨eq_of_isSame same.1, eq_of_areSame same.2⟩

theorem eq_of_haveSame {lefts rights : Members} (same : haveSame lefts rights = true) :
    lefts = rights := by
  match lefts, rights with
  | [], [] => rfl
  | (name, left) :: lefts, (other, right) :: rights =>
      simp only [haveSame, Bool.and_eq_true, beq_iff_eq] at same
      rw [same.1.1, eq_of_isSame same.1.2, eq_of_haveSame same.2]
  | [], _ :: _ | _ :: _, [] => simp [haveSame] at same

end

end Json
end ProseCheck
