import ProseCheck.Proofs.Location.Canonical

/-!
# Words as they stand

A word that a chunk took as it stands in a text node has one location: each of its characters is
located at its own octets, each range starts where the one before it ends, and so they are joined to
the range of the word.
-/

namespace ProseCheck
namespace Location

/-- Ranges of the characters of a word from an octet on. -/
def ofChars (file : FileId) (start : Int) : Text → List Location
  | [] => []
  | char :: rest =>
    ⟨file, start, start + Utf8.width char⟩ :: ofChars file (start + Utf8.width char) rest

@[simp]
theorem length_ofChars (file : FileId) (start : Int) (word : Text) :
    (ofChars file start word).length = word.length := by
  induction word generalizing start with
  | nil => rfl
  | cons char rest induction => rw [ofChars, List.length_cons, induction, List.length_cons]

theorem getElem?_ofChars (file : FileId) (start : Int) (word : Text) (index : Nat) :
    (ofChars file start word)[index]? =
      word[index]?.map fun char =>
        ⟨file, start + Utf8.size (word.take index),
          start + Utf8.size (word.take index) + Utf8.width char⟩ := by
  induction word generalizing start index with
  | nil => simp [ofChars]
  | cons char rest induction =>
      cases index with
      | zero => simp [ofChars]
      | succ index =>
          rw [ofChars, List.getElem?_cons_succ, induction, List.getElem?_cons_succ,
            List.take_succ_cons, Utf8.size_cons]
          simp only [Int.natCast_add, Int.add_assoc]

/-- A character that starts where a range ends extends it. -/
theorem insert_adjacent (file : FileId) (start stop : Int) (char : Char) :
    insert [⟨file, start, stop⟩] ⟨file, stop, stop + Utf8.width char⟩ =
      [⟨file, start, stop + Utf8.width char⟩] := by
  have width_pos := Utf8.width_pos char
  have outside : (⟨file, stop, stop + Utf8.width char⟩ : Location).within ⟨file, start, stop⟩ =
      false := by
    rw [← Bool.not_eq_true, within_iff]
    simp only
    omega
  simp [insert, outside]

theorem foldl_insert_adjacent (file : FileId) (start stop : Int) (word : Text) :
    (ofChars file stop word).foldl insert [⟨file, start, stop⟩] =
      [⟨file, start, stop + Utf8.size word⟩] := by
  induction word generalizing stop with
  | nil => simp [ofChars]
  | cons char rest induction =>
      rw [ofChars, List.foldl_cons, insert_adjacent, induction, Utf8.size_cons, Int.natCast_add,
        Int.add_assoc]

/-- The ranges of the characters of a word make up one range. -/
theorem foldl_insert_ofChars (file : FileId) (start : Int) {word : Text} (nonempty : word ≠ []) :
    (ofChars file start word).foldl insert [] = [⟨file, start, start + Utf8.size word⟩] := by
  cases word with
  | nil => contradiction
  | cons char rest =>
      have first : insert [] ⟨file, start, start + Utf8.width char⟩ =
          [⟨file, start, start + Utf8.width char⟩] := rfl
      rw [ofChars, List.foldl_cons, first, foldl_insert_adjacent, Utf8.size_cons, Int.natCast_add,
        Int.add_assoc]

end Location

namespace PositionMap

theorem covered_eq_range' (map : PositionMap) (suggestion : Suggestion) :
    map.covered suggestion =
      List.range' suggestion.start
        (min suggestion.stop map.stream.length - suggestion.start) := by
  rw [covered, List.range_eq_range', List.drop_range']
  simp

/-- Places one after the other that read as the items of a list. -/
theorem filterMap_range' {Item : Type} {read : Nat → Option Item} {items : List Item} {first : Nat}
    (reads : ∀ index, index < items.length → read (first + index) = items[index]?) :
    (List.range' first items.length).filterMap read = items := by
  induction items generalizing first with
  | nil => rfl
  | cons item rest induction =>
      have head : read first = some item := by
        simpa using reads 0 (by simp)
      rw [List.length_cons, List.range'_succ, List.filterMap_cons, head]
      simp only
      rw [induction]
      intro index inside
      have next := reads (index + 1) (by simpa using inside)
      rwa [List.getElem?_cons_succ, ← Nat.add_assoc, Nat.add_right_comm] at next

section

variable {map : PositionMap} {marks : List Mark} (reads : Reads map.entries marks)
  (stream_eq : map.stream = marks.map Mark.char)
include reads stream_eq

theorem origin?_of_reads {index : Nat} {mark : Mark} (found : marks[index]? = some mark) :
    map.origin? index = mark.origin := by
  obtain ⟨-, -, -, resolved⟩ := resolve_of_reads map reads stream_eq found
  simp [origin?, resolved]

/-- A suggestion about a word that stands in a text node is located at the octets of the word. -/
theorem locations_of_verbatim {span : Span} {offset : Int} {word : Text} {before after : List Mark}
    (marks_eq : marks = before ++ Mark.verbatim span offset word ++ after) (nonempty : word ≠ [])
    {world : World} {file : FileId} {placed : Placed} {ignored : List String}
    (file_eq : span.file = some file) (found : world.find? span = some placed)
    (is_text : placed.node.kind = .text) (shown : placed.isIgnored ignored = false)
    {suggestion : Suggestion} (start_eq : suggestion.start = before.length)
    (stop_eq : suggestion.stop = before.length + word.length) :
    map.locations world (some file) ignored suggestion =
      [⟨file, placed.start + offset, placed.start + offset + Utf8.size word⟩] := by
  have word_length : (Mark.verbatim span offset word).length = word.length := by
    rw [← List.length_map Mark.char, Mark.map_char_verbatim]
  have length_eq : map.stream.length = before.length + word.length + after.length := by
    rw [stream_eq, List.length_map, marks_eq, List.length_append, List.length_append, word_length]
  have covered_eq : map.covered suggestion =
      List.range' before.length (Location.ofChars file (placed.start + offset) word).length := by
    rw [covered_eq_range', start_eq, stop_eq, length_eq, Location.length_ofChars]
    congr 1
    omega
  have candidates_eq : (map.covered suggestion).filterMap
      (map.candidate? world (some file) ignored) =
        Location.ofChars file (placed.start + offset) word := by
    rw [covered_eq]
    refine filterMap_range' fun index inside => ?_
    rw [Location.length_ofChars] at inside
    obtain ⟨char, char_eq⟩ : ∃ char, word[index]? = some char :=
      ⟨_, List.getElem?_eq_getElem inside⟩
    have mark_eq : marks[before.length + index]? =
        some ⟨char, true, some ⟨span, offset + Utf8.size (word.take index),
          offset + Utf8.size (word.take index) + Utf8.width char⟩⟩ := by
      rw [marks_eq, List.append_assoc, List.getElem?_append_right (Nat.le_add_right _ _),
        Nat.add_sub_cancel_left, List.getElem?_append_left (by omega), Mark.getElem?_verbatim,
        char_eq]
      rfl
    rw [Location.getElem?_ofChars, char_eq, Option.map_some, candidate?_eq_some_iff]
    have origin_eq := origin?_of_reads reads stream_eq mark_eq
    refine ⟨_, file, placed, origin_eq, file_eq, ?_, found, shown, ?_⟩
    · intro wanted same
      exact (Option.some.inj same).symm
    · rw [Placed.locate, if_pos is_text]
      simp only [Int.add_assoc]
  rw [locations, candidates_eq, Location.foldl_insert_ofChars file _ nonempty]

end

end PositionMap
end ProseCheck
