import ProseCheck.Proofs.Chunk.Agreement

/-!
# Joined runs

A run that continues the last one of a position map joins it, and its octets are then counted from
the start of the joined run.  Nothing shows of that: each character of a stream resolves to where
the piece that emitted it says, just as if every piece had kept a run of its own, and a place
outside the stream resolves to nothing.
-/

namespace ProseCheck
namespace PositionMap

/-- A place that is none of the marked characters belongs to no run and resolves to nothing. -/
theorem resolve_of_outside (map : PositionMap) {marks : List Mark}
    (reads : Reads map.entries marks) {index : Int}
    (outside : ¬ (0 ≤ index ∧ index < marks.length)) :
    map.entryAt? index = none ∧ map.resolve index = .ok none := by
  have no_entry : map.entryAt? index = none := by
    by_contra some_entry
    obtain ⟨entry, holds⟩ := Option.ne_none_iff_exists'.1 some_entry
    exact outside (map.inside_of_entryAt? reads holds)
  exact ⟨no_entry, by simp [resolve, no_entry]⟩

/-- Position maps of one stream resolve all places alike if their entries read as the same marks,
whatever runs they are cut into. -/
theorem resolve_congr {first second : PositionMap} {marks : List Mark}
    (first_reads : Reads first.entries marks) (second_reads : Reads second.entries marks)
    (first_stream : first.stream = marks.map Mark.char)
    (second_stream : second.stream = marks.map Mark.char) (index : Int) :
    first.resolve index = second.resolve index := by
  by_cases inside : 0 ≤ index ∧ index < marks.length
  · obtain ⟨place, rfl⟩ := Int.eq_ofNat_of_zero_le inside.1
    have found : marks[place]? = some marks[place] := List.getElem?_eq_getElem (by omega)
    obtain ⟨-, -, -, first_eq⟩ := first.resolve_of_reads first_reads first_stream found
    obtain ⟨-, -, -, second_eq⟩ := second.resolve_of_reads second_reads second_stream found
    rw [first_eq, second_eq]
  · rw [(first.resolve_of_outside first_reads inside).2,
      (second.resolve_of_outside second_reads inside).2]

end PositionMap

namespace Piece

/-- Where the character at a place of what a piece emits comes from. -/
def originOf (place : Nat) (char : Char) : Piece → Option Origin
  | .plain written (some span) offset =>
    some
      ⟨span, offset + Utf8.size (written.take place),
        offset + Utf8.size (written.take place) + Utf8.width char⟩
  | .encoded written _ (some span) => some ⟨span, 0, Utf8.size written⟩
  | .plain _ none _ | .hidden _ | .encoded _ _ none => none

/-- Entries of pieces whose stream starts at `start`, one for each piece that emits anything. -/
def apartFrom (start : Nat) : List Piece → List Entry
  | [] => []
  | piece :: rest =>
    (if piece.emitted = [] then [] else [piece.entry start])
      ++ apartFrom (start + piece.emitted.length) rest

/-- The position map of some pieces in which no run joins another. -/
def apart (pieces : List Piece) : PositionMap := ⟨stream pieces, apartFrom 0 pieces⟩

theorem exists_getElem?_marks {piece : Piece} {place : Nat} {char : Char}
    (emits : piece.emitted[place]? = some char) :
    ∃ mark, piece.marks[place]? = some mark ∧ mark.char = char ∧
      mark.origin = piece.originOf place char := by
  rcases piece with ⟨written, _ | span, offset⟩ | written | ⟨written, substitute, _ | span⟩ <;>
    simp_all [emitted, marks, originOf, Mark.uniform, Mark.getElem?_verbatim]

theorem reads_apartFrom {entries : List Entry} {marks : List Mark} (reads : Reads entries marks)
    (pieces : List Piece) :
    Reads (entries ++ apartFrom marks.length pieces) (marks ++ pieces.flatMap Piece.marks) := by
  induction pieces generalizing entries marks with
  | nil => simpa [apartFrom] using reads
  | cons piece rest induction =>
      by_cases silent : piece.emitted = []
      · have no_marks : piece.marks = [] := List.eq_nil_of_length_eq_zero (by simp [silent])
        simpa [apartFrom, silent, no_marks] using induction reads
      · have last : Reads (entries ++ [piece.entry marks.length]) (marks ++ piece.marks) := by
          rw [← piece.marks_entry marks.length]
          refine .snoc reads silent ?_ (by simp) ?_
          · cases piece <;> rfl
          · cases piece <;> simp [entry, emitted]
        simpa [apartFrom, silent] using induction last

/-- Entries that were never joined read as the marks of their pieces too. -/
theorem reads_apart (pieces : List Piece) :
    Reads (apart pieces).entries (pieces.flatMap Piece.marks) := by
  simpa [apart] using reads_apartFrom .nil pieces

/-- Each character of a stream is one that some piece emits. -/
theorem exists_emitted_of_lt {pieces : List Piece} {index : Nat}
    (inside : index < (stream pieces).length) :
    ∃ before piece after place char, pieces = before ++ piece :: after ∧
      piece.emitted[place]? = some char ∧ index = (stream before).length + place := by
  rw [stream_eq_map_marks, List.length_map] at inside
  obtain ⟨before, piece, after, place, pieces_eq, marked, index_eq⟩ :=
    exists_of_getElem?_marks (List.getElem?_eq_getElem inside)
  refine ⟨before, piece, after, place, (pieces.flatMap marks)[index].char, pieces_eq, ?_,
    index_eq⟩
  rw [← map_char_marks, List.getElem?_map, marked, Option.map_some]

end Piece

/-- A position map knows the character at a place of its stream and where it comes from. -/
structure KnowsAt (map : PositionMap) (index : Nat) (char : Char) (origin : Option Origin) :
    Prop where
  stands : map.stream[index]? = some char
  held : ∃ entry, map.entryAt? index = some entry
  resolves : map.resolve index = .ok origin

/-- A position map says of every character what the piece that emitted it says. -/
structure IsTransparent (map : PositionMap) (pieces : List Piece) : Prop where
  /-- What a piece emits stands behind what the pieces before it emit. -/
  knows : ∀ before piece after place char, pieces = before ++ piece :: after →
    piece.emitted[place]? = some char →
      KnowsAt map ((Piece.stream before).length + place) char (piece.originOf place char)
  /-- There are no other characters. -/
  emitted : ∀ index < map.stream.length, ∃ before piece after place char,
    pieces = before ++ piece :: after ∧ piece.emitted[place]? = some char ∧
      index = (Piece.stream before).length + place
  /-- A place outside the stream belongs to no run and resolves to nothing. -/
  outside : ∀ index : Int, ¬ (0 ≤ index ∧ index < map.stream.length) →
    map.entryAt? index = none ∧ map.resolve index = .ok none
  /-- All places resolve as they do where no run joins another. -/
  apart : ∀ index : Int, map.resolve index = (Piece.apart pieces).resolve index

namespace Draft

/-- Whatever runs were joined, the position map of a chunk says of every character what the piece
that emitted it says. -/
theorem isTransparent_ofPieces (language : String) (pieces : List Piece) :
    IsTransparent (ofPieces language pieces).chunk.map pieces := by
  have map_eq : (ofPieces language pieces).chunk.map = Piece.positionMap pieces := by
    rw [ofPieces_eq]
    rfl
  have reads : Reads (Piece.positionMap pieces).entries (pieces.flatMap Piece.marks) :=
    Piece.reads_entries pieces
  have stream_eq : (Piece.positionMap pieces).stream =
      (pieces.flatMap Piece.marks).map Mark.char := Piece.stream_eq_map_marks pieces
  rw [map_eq]
  constructor
  case knows =>
    rintro before piece after place char rfl emits
    obtain ⟨mark, marked, rfl, origin_eq⟩ := Piece.exists_getElem?_marks emits
    have found := Piece.getElem?_marks_behind before after marked
    obtain ⟨entry, holds, -, resolved⟩ := PositionMap.resolve_of_reads _ reads stream_eq found
    refine ⟨?_, ⟨entry, holds⟩, by rw [resolved, origin_eq]⟩
    rw [stream_eq, List.getElem?_map, found, Option.map_some]
  case emitted => exact fun index inside => Piece.exists_emitted_of_lt inside
  case outside =>
    intro index outside
    rw [stream_eq, List.length_map] at outside
    exact PositionMap.resolve_of_outside _ reads outside
  case apart => exact PositionMap.resolve_congr reads (Piece.reads_apart pieces) stream_eq stream_eq

end Draft
end ProseCheck
