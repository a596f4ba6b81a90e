import ProseCheck.Markup.Escape
import ProseCheck.Proofs.Json.Written
import ProseCheck.Proofs.Text.Numeral

/-!
# What escapes stand for

An escape that encloses hexadecimal digits of a character stands for that character, and any other
text for what it holds behind its backslash.  Decoding departs from that where an escape encloses a
numeral of another form, or the code point of half a surrogate pair, and nowhere else.
-/

namespace ProseCheck
namespace Escape

variable {text inner : Text}

/-- A text is an escape by code point, with a backslash or without one. -/
def Encloses (text inner : Text) : Prop := body text = 'u' :: '{' :: (inner ++ ['}'])

/-- A text is an escape of a character: it encloses hexadecimal digits of its code point, one at
least. -/
def Names (text : Text) (char : Char) : Prop :=
  ∃ digits, digits ≠ [] ∧ Text.hexNumber? digits = some char.toNat ∧ Encloses text digits

/-- What a text stands for: the character that it names or else itself, without one backslash. -/
inductive StandsFor (text : Text) : Text → Prop where
  | named {char : Char} : Names text char → StandsFor text [char]
  | plain : (∀ char, ¬ Names text char) → StandsFor text (body text)

/-- An escape that names no character is read as a code point all the same, since it encloses a
numeral. -/
def IsMisread (text : Text) (code : Nat) : Prop :=
  (∀ char, ¬ Names text char) ∧ ∃ inner, Encloses text inner ∧
    Numeral.WritesHexadecimal (inner.map Numeral.plainChar) code ∧ code < 0x110000

/-- The escape of a character by some hexadecimal digits of its code point. -/
def ofChar (count : Nat) (char : Char) : Text :=
  '\\' :: 'u' :: '{' :: (Text.hexDigits count char.toNat ++ ['}'])

theorem codeDigits?_body_eq_some_iff :
    codeDigits? (body text) = some inner ↔ Encloses text inner := by
  rw [Encloses]
  constructor
  · intro found
    unfold codeDigits? at found
    split at found
    · rename_i rest body_eq
      split at found
      · rename_i last_eq
        obtain ⟨front, rest_eq⟩ := List.getLast?_eq_some_iff.1 last_eq
        rw [rest_eq, List.dropLast_concat] at found
        rw [body_eq, rest_eq, Option.some.inj found]
      · contradiction
    · contradiction
  · intro body_eq
    rw [body_eq]
    simp [codeDigits?]

theorem codePoints_of_encloses {code : Nat} (encloses : Encloses text inner)
    (read : Numeral.hexadecimal? inner = some (code : Int)) (small : code < 0x110000) :
    codePoints text = [code] := by
  have inside : 0 ≤ (code : Int) ∧ (code : Int) < 0x110000 := by omega
  simp only [codePoints, codeDigits?_body_eq_some_iff.2 encloses, Option.bind_some, read,
    if_pos inside, Int.toNat_natCast]

theorem codePoints_of_unread
    (unread : ∀ inner (code : Nat), Encloses text inner →
      Numeral.hexadecimal? inner = some (code : Int) → ¬ code < 0x110000) :
    codePoints text = (body text).map Char.toNat := by
  unfold codePoints
  simp only
  split
  · rename_i code read
    obtain ⟨inner, digits_eq, code_eq⟩ := Option.bind_eq_some_iff.1 read
    rw [if_neg]
    rintro ⟨nonneg, small⟩
    refine unread inner code.toNat (codeDigits?_body_eq_some_iff.1 digits_eq) ?_ (by omega)
    rw [code_eq, Int.toNat_of_nonneg nonneg]
  · rfl

@[simp]
theorem charOf_toNat (char : Char) : charOf char.toNat = char := by
  have valid : char.toNat.isValidChar := char.valid
  rw [charOf, if_pos valid, Char.ofNat_toNat]

@[simp]
theorem map_charOf_toNat (text : Text) : (text.map Char.toNat).map charOf = text := by
  simp [Function.comp_def]

/-- A character that is named is decoded. -/
theorem codePoints_of_names {char : Char} (names : Names text char) :
    codePoints text = [char.toNat] := by
  obtain ⟨digits, nonempty, number_eq, encloses⟩ := names
  have valid : char.toNat.isValidChar := char.valid
  refine codePoints_of_encloses encloses (Text.hexadecimal?_of_hexNumber? nonempty number_eq) ?_
  rcases valid with small | ⟨-, small⟩ <;> omega

theorem codePoints_of_isMisread {code : Nat} (misread : IsMisread text code) :
    codePoints text = [code] := by
  obtain ⟨-, inner, encloses, written, small⟩ := misread
  exact codePoints_of_encloses encloses (Numeral.hexadecimal?_eq_some_iff.2 written) small

/-- A text that is not misread and names no character stays as it is. -/
theorem codePoints_of_plain (nameless : ∀ char, ¬ Names text char)
    (read : ∀ code, ¬ IsMisread text code) : codePoints text = (body text).map Char.toNat := by
  refine codePoints_of_unread fun inner code encloses read_eq small => ?_
  exact read code ⟨nameless, inner, encloses, Numeral.hexadecimal?_eq_some_iff.1 read_eq, small⟩

/-- The three things that a text can be. -/
theorem names_or_isMisread_or_plain (text : Text) :
    (∃ char, Names text char) ∨ (∃ code, IsMisread text code) ∨
      (∀ char, ¬ Names text char) ∧ ∀ code, ¬ IsMisread text code := by
  by_cases named : ∃ char, Names text char
  · exact .inl named
  · by_cases misread : ∃ code, IsMisread text code
    · exact .inr (.inl misread)
    · exact .inr (.inr ⟨not_exists.1 named, not_exists.1 misread⟩)

theorem names_ofChar {count : Nat} {char : Char} (positive : 0 < count)
    (fits : char.toNat < 16 ^ count) : Names (ofChar count char) char := by
  refine ⟨Text.hexDigits count char.toNat, fun empty => ?_, Text.hexNumber?_hexDigits fits, rfl⟩
  have := Text.length_hexDigits count char.toNat
  rw [empty] at this
  exact absurd this (Nat.ne_of_lt positive)

/-- How a text is decoded. -/
structure IsDecoded (text : Text) : Prop where
  /-- A character that is named is what comes out. -/
  named : ∀ char, Names text char → codePoints text = [char.toNat] ∧ decode text = [char]
  /-- Of a misread text the code point comes out that is read. -/
  misread : ∀ code, IsMisread text code → codePoints text = [code]
  /-- Any other text stays as it is, without one backslash. -/
  plain : (∀ char, ¬ Names text char) → (∀ code, ¬ IsMisread text code) →
    codePoints text = (body text).map Char.toNat ∧ decode text = body text
  /-- What comes out is what the text stands for, unless it is misread. -/
  exact_iff : (∃ meant, StandsFor text meant ∧ codePoints text = meant.map Char.toNat) ↔
    ∀ code, ¬ IsMisread text code
  /-- Only characters come out, unless half a surrogate pair is misread. -/
  scalar_iff : (∀ code ∈ codePoints text, code.isValidChar) ↔
    ∀ code, IsMisread text code → code.isValidChar

theorem isDecoded (text : Text) : IsDecoded text := by
  constructor
  case named =>
    intro char names
    have points_eq := codePoints_of_names names
    exact ⟨points_eq, by rw [decode, points_eq, List.map_singleton, charOf_toNat]⟩
  case misread => exact fun code misread => codePoints_of_isMisread misread
  case plain =>
    intro nameless read
    have points_eq := codePoints_of_plain nameless read
    exact ⟨points_eq, by rw [decode, points_eq, map_charOf_toNat]⟩
  case exact_iff =>
    constructor
    · rintro ⟨meant, stands, points_eq⟩ code misread
      rw [codePoints_of_isMisread misread] at points_eq
      cases stands with
      | named names => exact misread.1 _ names
      | plain nameless =>
          obtain ⟨-, inner, encloses, -⟩ := misread
          rw [show body text = _ from encloses] at points_eq
          simp at points_eq
    · intro read
      rcases names_or_isMisread_or_plain text with ⟨char, names⟩ | ⟨code, misread⟩ | ⟨nameless, -⟩
      · exact ⟨[char], .named names, codePoints_of_names names⟩
      · exact absurd misread (read code)
      · exact ⟨body text, .plain nameless, codePoints_of_plain nameless read⟩
  case scalar_iff =>
    rcases names_or_isMisread_or_plain text with
      ⟨char, names⟩ | ⟨code, misread⟩ | ⟨nameless, read⟩
    · refine iff_of_true ?_ fun code misread => absurd names (misread.1 char)
      rw [codePoints_of_names names]
      exact List.forall_mem_singleton.2 char.valid
    · rw [codePoints_of_isMisread misread, List.forall_mem_singleton]
      refine ⟨fun valid other other_misread => ?_, fun scalar => scalar code misread⟩
      have same := codePoints_of_isMisread other_misread
      rw [codePoints_of_isMisread misread] at same
      rwa [← List.singleton_inj.1 same]
    · refine iff_of_true ?_ fun code misread => absurd misread (read code)
      rw [codePoints_of_plain nameless read]
      exact List.forall_mem_map.2 fun char _ => char.valid

/-- A text is decoded to what it stands for exactly if it is not misread, and every character comes
back from each of its escapes. -/
theorem decoded_iff_not_misread (text : Text) :
    IsDecoded text ∧
      ∀ (count : Nat) (char : Char), 0 < count → char.toNat < 16 ^ count →
        codePoints (ofChar count char) = [char.toNat] ∧ decode (ofChar count char) = [char] :=
  ⟨isDecoded text, fun _ _ positive fits => (isDecoded _).named _ (names_ofChar positive fits)⟩

/-- The escape of half a surrogate pair names no character, and yet it does not stand for what it
holds. -/
theorem surrogate_misread :
    codePoints ['\\', 'u', '{', 'd', '8', '0', '0', '}'] = [0xD800] ∧
      ∀ meant, StandsFor ['\\', 'u', '{', 'd', '8', '0', '0', '}'] meant →
        codePoints ['\\', 'u', '{', 'd', '8', '0', '0', '}'] ≠ meant.map Char.toNat := by
  have points_eq : codePoints ['\\', 'u', '{', 'd', '8', '0', '0', '}'] = [0xD800] := by decide
  refine ⟨points_eq, fun meant stands => ?_⟩
  rw [points_eq]
  cases stands with
  | @named char =>
      intro same
      have valid : char.toNat.isValidChar := char.valid
      rw [← List.singleton_inj.1 same] at valid
      exact absurd valid (by decide)
  | plain => decide

end Escape
end ProseCheck
