import Mathlib.Data.Int.ConditionallyCompleteOrder
import Mathlib.Data.Prod.Lex
import Mathlib.Order.ConditionallyCompleteLattice.Basic
import Mathlib.Tactic.ByContra
import ProseCheck.Proofs.Text.Lines

/-!
# Lines of octets

Lines start one behind the other, the first at the first octet, so each octet of a source stands on
one line: the last one that starts at the octet or in front of it.
-/

namespace ProseCheck

/-- Items in ascending order up to a value and behind it, of which the first is not behind. -/
theorem Bisect.exists_last_at_most {first : Nat} {rest : List Nat}
    (ascending : (first :: rest).Pairwise (· < ·)) {value : Nat} (first_le : first ≤ value) :
    ∃ front last back, first :: rest = front ++ last :: back ∧ last ≤ value ∧
      ∀ item ∈ back, value < item := by
  induction rest generalizing first with
  | nil => exact ⟨[], first, [], rfl, first_le, by simp⟩
  | cons second more induction =>
      have rest_ascending := (List.pairwise_cons.1 ascending).2
      by_cases second_le : second ≤ value
      · obtain ⟨front, last, back, split_eq, last_le, above⟩ := induction rest_ascending second_le
        exact ⟨first :: front, last, back, by rw [split_eq, List.cons_append], last_le, above⟩
      · refine ⟨[], first, second :: more, rfl, first_le, List.forall_mem_cons.2 ⟨by omega, ?_⟩⟩
        intro item mem
        have := (List.pairwise_cons.1 rest_ascending).1 item mem
        omega

namespace Source

/-- The octets of a part of the text show as that part. -/
theorem slice_eq {source : Source} {before part after : Text}
    (text_eq : source.text = before ++ part ++ after) :
    source.slice (Utf8.size before) (Utf8.size (before ++ part)) = part := by
  rw [slice, source.octets_eq, text_eq, Utf8.between_encode_append, Utf8.decodeLossy_encode]

/-- Neighbouring parts of the text show as the part that they make up. -/
theorem slice_append {source : Source} {start middle stop : Int}
    (starts : Utf8.IsBoundary source.text start) (cuts : Utf8.IsBoundary source.text middle)
    (stops : Utf8.IsBoundary source.text stop) (start_le : start ≤ middle)
    (le_stop : middle ≤ stop) :
    source.slice start middle ++ source.slice middle stop = source.slice start stop := by
  obtain ⟨before, part, after, text_eq, rfl, rfl⟩ := Utf8.exists_between starts cuts start_le
  obtain ⟨front, more, rest, same_text, size_eq, rfl⟩ := Utf8.exists_between cuts stops le_stop
  rw [text_eq, List.append_assoc front] at same_text
  obtain rfl := Utf8.eq_of_size_eq same_text (Int.natCast_inj.1 size_eq)
  rw [← List.append_assoc, ← text_eq] at same_text
  have whole : source.text = before ++ (part ++ more) ++ rest := by simpa using same_text
  rw [slice_eq text_eq, slice_eq same_text, List.append_assoc before, slice_eq whole]

theorem pairwise_lineStarts (source : Source) : source.lineStarts.Pairwise (· < ·) := by
  rw [source.lineStarts_eq]
  exact Lines.pairwise_starts source.text

/-- An octet on a line of a source.  The line starts at the octet or in front of it, and the lines
behind that line start behind the octet. -/
structure StandsOn (source : Source) (offset : Int) (front : List Nat) (start : Nat)
    (back : List Nat) : Prop where
  lineStarts_eq : source.lineStarts = front ++ start :: back
  start_le : start ≤ offset
  lt_next : ∀ next ∈ back, offset < next

/-- Each octet stands on a line. -/
theorem exists_standsOn (source : Source) {offset : Int} (nonneg : 0 ≤ offset) :
    ∃ front start back, source.StandsOn offset front start back := by
  have ascending := source.pairwise_lineStarts
  obtain ⟨more, starts_eq⟩ := Lines.exists_starts_eq_cons source.text
  rw [← source.lineStarts_eq] at starts_eq
  rw [starts_eq] at ascending
  obtain ⟨value, rfl⟩ := Int.eq_ofNat_of_zero_le nonneg
  obtain ⟨front, start, back, split_eq, start_le, above⟩ :=
    Bisect.exists_last_at_most ascending (Nat.zero_le value)
  refine ⟨front, start, back, starts_eq.trans split_eq, by omega, fun next mem => ?_⟩
  have := above next mem
  omega

/-- A line that starts somewhere has its first octet on it. -/
theorem standsOn_start {source : Source} {front back : List Nat} {start : Nat}
    (starts_eq : source.lineStarts = front ++ start :: back) :
    source.StandsOn start front start back := by
  refine ⟨starts_eq, Int.le_refl _, fun next mem => ?_⟩
  have ascending := source.pairwise_lineStarts
  rw [starts_eq, List.pairwise_append, List.pairwise_cons] at ascending
  have := ascending.2.1.1 next mem
  omega

namespace StandsOn

variable {source : Source} {offset : Int} {start : Nat} {front back : List Nat}

theorem nonneg (stands : source.StandsOn offset front start back) : 0 ≤ offset := by
  have := stands.start_le
  omega

/-- The lines in front of the one that an octet stands on are counted. -/
theorem lineOf_eq (stands : source.StandsOn offset front start back) :
    source.lineOf offset = front.length := by
  have nonneg := stands.nonneg
  have count_eq : Bisect.countAtMost source.lineStarts offset.toNat = front.length + 1 := by
    have ascending := source.pairwise_lineStarts
    rw [stands.lineStarts_eq, List.append_cons] at ascending ⊢
    rw [Bisect.countAtMost_append, List.length_append, List.length_singleton]
    · intro item mem
      have start_le := stands.start_le
      rcases List.mem_append.1 mem with mem | mem
      · have := (List.pairwise_append.1 (List.pairwise_append.1 ascending).1).2.2 item mem start
          (List.mem_singleton_self start)
        omega
      · rw [List.mem_singleton] at mem
        omega
    · intro item mem
      have := stands.lt_next item mem
      omega
  rw [lineOf, if_neg (by omega), count_eq]
  omega

theorem lineStart?_eq (stands : source.StandsOn offset front start back) :
    source.lineStart? (source.lineOf offset) = some start := by
  rw [stands.lineOf_eq, lineStart?, if_pos (by omega), Int.toNat_natCast, stands.lineStarts_eq]
  simp

/-- The next line starts behind the octet. -/
theorem lt_of_lineStart?_succ (stands : source.StandsOn offset front start back) {next : Nat}
    (found : source.lineStart? (front.length + 1) = some next) : offset < next := by
  refine stands.lt_next next ?_
  have next_eq : back[0]? = some next := by
    rw [lineStart?, if_pos (by omega), stands.lineStarts_eq,
      List.getElem?_append_right (by omega)] at found
    have second : ((front.length : Int) + 1).toNat - front.length = 1 := by omega
    rwa [second, List.getElem?_cons_succ] at found
  exact List.mem_of_getElem? next_eq

theorem startOfLine_eq (stands : source.StandsOn offset front start back) :
    source.startOfLine offset = start := by
  rw [startOfLine, stands.lineStart?_eq]

end StandsOn

/-- A line that exists is the line of its first octet. -/
theorem lineOf_lineStart {source : Source} {line : Int} {start : Nat}
    (found : source.lineStart? line = some start) : source.lineOf start = line := by
  unfold lineStart? at found
  split at found
  · rename_i nonneg
    obtain ⟨front, first, back, starts_eq, length_eq⟩ :=
      Slice.exists_split (List.getElem?_eq_some_iff.1 found).1
    obtain rfl : first = start := by simpa [starts_eq, ← length_eq] using found
    rw [(standsOn_start starts_eq).lineOf_eq]
    omega
  · contradiction

/-- What stands in front of the first octet is on the line −1. -/
theorem lineOf_of_neg (source : Source) {offset : Int} (neg : offset < 0) :
    source.lineOf offset = -1 := if_pos neg

/-- Octets further behind stand on the same line or on a later one. -/
theorem lineOf_mono (source : Source) {earlier later : Int} (le : earlier ≤ later) :
    source.lineOf earlier ≤ source.lineOf later := by
  by_cases neg : earlier < 0
  · rw [source.lineOf_of_neg neg, lineOf]
    split <;> omega
  · have nonneg : 0 ≤ earlier := by omega
    obtain ⟨front, start, back, stands⟩ := source.exists_standsOn nonneg
    obtain ⟨before, first, behind, stands_later⟩ :=
      source.exists_standsOn (Int.le_trans nonneg le)
    rw [stands.lineOf_eq, stands_later.lineOf_eq]
    have same := stands.lineStarts_eq.symm.trans stands_later.lineStarts_eq
    rcases List.append_eq_append_iff.1 same with ⟨between, rfl, -⟩ | ⟨between, rfl, rest_eq⟩
    · rw [List.length_append]
      omega
    · -- Were there lines between, the earlier octet would stand behind the later one.
      cases between with
      | nil => simp
      | cons next more =>
          obtain ⟨-, rfl⟩ := List.cons.inj rest_eq
          have start_le := stands.start_le
          have := stands_later.lt_next start (by simp)
          omega

end Source
end ProseCheck

/-!
## Positions of octets

The column of an octet is the number of characters between the start of its line and the octet.  A
position leads back to its octet, where that stands between two characters, and positions are in the
order of their octets, wherever these stand.
-/

namespace ProseCheck
namespace Source

variable {source : Source} {offset other : Int} {position : Int × Nat}

/-- A position that leads to an octet: its line exists, and as many characters as its column says,
from the start of the line on, end at the octet. -/
def LeadsTo (source : Source) (position : Int × Nat) (offset : Int) : Prop :=
  ∃ before part after, source.lineStart? position.1 = some (Utf8.size before) ∧
    source.text = before ++ part ++ after ∧ part.length = position.2 ∧
      offset = Utf8.size (before ++ part)

/-- The position of an octet between two characters leads to it. -/
theorem leadsTo_position (boundary : Utf8.IsBoundary source.text offset) :
    source.LeadsTo (source.position offset) offset := by
  have nonneg : 0 ≤ offset := by
    obtain ⟨before, after, -, rfl⟩ := boundary
    omega
  obtain ⟨front, start, back, stands⟩ := source.exists_standsOn nonneg
  have start_mem : start ∈ Lines.starts source.text := by
    rw [← source.lineStarts_eq, stands.lineStarts_eq]
    exact List.mem_append_right _ List.mem_cons_self
  obtain ⟨before, part, after, text_eq, start_eq, offset_eq⟩ :=
    Utf8.exists_between (Lines.isBoundary_of_mem_starts start_mem) boundary stands.start_le
  obtain rfl := Int.natCast_inj.1 start_eq
  refine ⟨before, part, after, stands.lineStart?_eq, text_eq, ?_, offset_eq⟩
  rw [Source.position, columnOf, stands.startOfLine_eq, offset_eq, slice_eq text_eq]

/-- A position leads to one octet. -/
theorem LeadsTo.unique (leads : source.LeadsTo position offset)
    (leads_too : source.LeadsTo position other) : offset = other := by
  obtain ⟨before, part, after, start_eq, text_eq, length_eq, rfl⟩ := leads
  obtain ⟨front, middle, back, same_start, same_text, same_length, rfl⟩ := leads_too
  rw [start_eq] at same_start
  rw [text_eq, List.append_assoc, List.append_assoc] at same_text
  obtain rfl := Utf8.eq_of_size_eq same_text (Option.some.inj same_start)
  obtain ⟨rfl, -⟩ := List.append_inj (List.append_cancel_left same_text) (by omega)
  rfl

/-- Of octets on the same line the one further behind has the same column or a later one. -/
theorem columnOf_mono (source : Source) {earlier later : Int} (le : earlier ≤ later)
    (same_line : source.lineOf earlier = source.lineOf later) :
    source.columnOf earlier ≤ source.columnOf later := by
  have same_start : source.startOfLine earlier = source.startOfLine later := by
    rw [startOfLine, startOfLine, same_line]
  -- A bound in front of the first octet counts from the end of the text.
  have same_end : 0 ≤ earlier ∨ later < 0 := by
    by_contra apart
    have nonneg : 0 ≤ later := by omega
    obtain ⟨front, start, back, stands⟩ := source.exists_standsOn nonneg
    rw [source.lineOf_of_neg (by omega), stands.lineOf_eq] at same_line
    omega
  rw [columnOf, columnOf, same_start]
  exact Utf8.length_decodeLossy_le
    (Slice.between_prefix _ _ (Slice.place_mono _ le same_end))

/-- Positions are in the order of their octets. -/
theorem position_monotone (source : Source) :
    Monotone fun offset => toLex (source.position offset) := by
  intro earlier later le
  rw [Prod.Lex.toLex_le_toLex]
  rcases Int.lt_or_eq_of_le (source.lineOf_mono le) with line_lt | same_line
  · exact .inl line_lt
  · exact .inr ⟨same_line, source.columnOf_mono le same_line⟩

/-- Octets between characters have positions of their own. -/
theorem position_injOn (source : Source) :
    Set.InjOn source.position {offset | Utf8.IsBoundary source.text offset} := by
  intro offset boundary other other_boundary same
  have leads := leadsTo_position boundary
  rw [same] at leads
  exact leads.unique (leadsTo_position other_boundary)

theorem position_strictMonoOn (source : Source) :
    StrictMonoOn (fun offset => toLex (source.position offset))
      {offset | Utf8.IsBoundary source.text offset} := by
  intro earlier boundary later later_boundary lt
  refine lt_of_le_of_ne (source.position_monotone (Int.le_of_lt lt)) fun same => ?_
  have := source.position_injOn boundary later_boundary (toLex.injective same)
  omega

end Source
end ProseCheck
