import Mathlib.Data.List.Basic
import ProseCheck.Proofs.Chunk.Stretch

/-!
# Owned characters

A character is owned by the file of interest if it comes from a node of that file and, when no
file is of interest, if it comes from any node.  A collector keeps a chunk if and only if the chunk
holds an owned character.  The owned characters of the kept chunks are therefore those that the
events emit, whatever the size limit.
-/

namespace ProseCheck

/-- Whether what comes from here is owned by the file of interest or, if there is none, by any
node. -/
def Origin.isOwned (interest : Option FileId) (origin : Origin) : Bool :=
  match interest with
  | some file => origin.span.file == some file
  | none => true

/-- An owned character with the language that it is checked in. -/
structure OwnedChar where
  /-- The character. -/
  char : Char
  /-- Octets that it comes from. -/
  origin : Origin
  /-- Language code. -/
  language : String
deriving DecidableEq, Repr

/-- Owned characters of a chunk, by what their places resolve to. -/
def Chunk.owned (interest : Option FileId) (chunk : Chunk) : List OwnedChar :=
  chunk.map.readings.filterMap fun (char, found) =>
    match found with
    | .ok (some origin) =>
      if origin.isOwned interest then some ⟨char, origin, chunk.language⟩ else none
    | .ok none | .error _ => none

/-- A chunk holds an owned character if and only if a place of it resolves to an owned origin. -/
theorem Chunk.owned_ne_nil_iff {interest : Option FileId} {chunk : Chunk} :
    chunk.owned interest ≠ [] ↔
      ∃ char origin, (char, .ok (some origin)) ∈ chunk.map.readings ∧
        origin.isOwned interest = true := by
  constructor
  · intro nonempty
    obtain ⟨owned, owned_mem⟩ := List.exists_mem_of_ne_nil _ nonempty
    obtain ⟨⟨char, found⟩, mem, owned_eq⟩ := List.mem_filterMap.1 owned_mem
    rcases found with error | _ | origin
    · simp at owned_eq
    · simp at owned_eq
    · simp only [Option.ite_none_right_eq_some] at owned_eq
      exact ⟨char, origin, mem, owned_eq.1⟩
  · rintro ⟨char, origin, mem, is_owned⟩
    exact List.ne_nil_of_mem (List.mem_filterMap.2 ⟨_, mem, by simp [is_owned]; rfl⟩)

namespace Mark

/-- The character of a mark in a language, if it is owned. -/
def owned? (interest : Option FileId) (language : String) (mark : Mark) : Option OwnedChar :=
  (mark.origin.filter (Origin.isOwned interest)).map fun origin => ⟨mark.char, origin, language⟩

theorem owned?_eq_some_iff {interest : Option FileId} {language : String} {mark : Mark}
    {owned : OwnedChar} :
    mark.owned? interest language = some owned ↔
      ∃ origin, mark.origin = some origin ∧ origin.isOwned interest = true ∧
        ⟨mark.char, origin, language⟩ = owned := by
  cases origin_eq : mark.origin with
  | none => simp [owned?, origin_eq]
  | some origin =>
      by_cases is_owned : origin.isOwned interest = true <;>
        simp [owned?, origin_eq, is_owned]

end Mark

/-- Owned characters that events emit, each with the language in force. -/
def Event.owned (interest : Option FileId) (language : String) (events : List Event) :
    List OwnedChar :=
  (Event.emissions language events).filterMap fun (mark, language) =>
    mark.owned? interest language

namespace Piece

theorem span_of_mem_verbatim {span : Span} {offset : Int} {text : Text} {mark : Mark}
    (mem : mark ∈ Mark.verbatim span offset text) : mark.origin.map Origin.span = some span := by
  induction text generalizing offset with
  | nil => simp [Mark.verbatim] at mem
  | cons char rest induction =>
      rcases List.mem_cons.1 mem with rfl | mem
      · rfl
      · exact induction mem

/-- All characters of a piece come from its node. -/
theorem span_of_mem_marks {piece : Piece} {mark : Mark} (mem : mark ∈ piece.marks) :
    mark.origin.map Origin.span = piece.span? := by
  rcases piece with ⟨written, _ | span, offset⟩ | written | ⟨written, substitute, span⟩
  · simp only [marks, Mark.uniform, List.mem_map] at mem
    obtain ⟨char, -, rfl⟩ := mem
    rfl
  · exact span_of_mem_verbatim mem
  · simp [marks] at mem
  · simp only [marks, Mark.uniform, List.mem_map] at mem
    obtain ⟨char, -, rfl⟩ := mem
    cases span <;> rfl

theorem origin_eq_none {piece : Piece} (no_span : piece.span? = none) {mark : Mark}
    (mem : mark ∈ piece.marks) : mark.origin = none := by
  have origin_span := span_of_mem_marks mem
  rw [no_span] at origin_span
  exact Option.map_eq_none_iff.1 origin_span

theorem marks_ne_nil_iff (piece : Piece) : piece.marks ≠ [] ↔ piece.emitted ≠ [] := by
  rw [← map_char_marks, ne_eq, ne_eq, List.map_eq_nil_iff]

/-- A piece has content if and only if a node owns a character of it. -/
theorem hasContent_iff (piece : Piece) :
    piece.hasContent = true ↔ ∃ mark ∈ piece.marks, ∃ origin, mark.origin = some origin := by
  have content : piece.hasContent = true ↔ piece.marks ≠ [] ∧ ∃ span, piece.span? = some span := by
    rw [marks_ne_nil_iff]
    simp [hasContent, Option.isSome_iff_exists]
  rw [content]
  constructor
  · rintro ⟨nonempty, span, span_eq⟩
    obtain ⟨mark, mem⟩ := List.exists_mem_of_ne_nil _ nonempty
    have origin_span := span_of_mem_marks mem
    rw [span_eq, Option.map_eq_some_iff] at origin_span
    obtain ⟨origin, origin_eq, -⟩ := origin_span
    exact ⟨mark, mem, origin, origin_eq⟩
  · rintro ⟨mark, mem, origin, origin_eq⟩
    refine ⟨List.ne_nil_of_mem mem, origin.span, ?_⟩
    rw [← span_of_mem_marks mem, origin_eq]
    rfl

/-- The file of a piece is that of the node which owns a character of it. -/
theorem file?_eq_some_iff (piece : Piece) (file : FileId) :
    piece.file? = some file ↔
      ∃ mark ∈ piece.marks, ∃ origin, mark.origin = some origin ∧
        origin.span.file = some file := by
  have content : piece.file? = some file ↔
      piece.marks ≠ [] ∧ ∃ span, piece.span? = some span ∧ span.file = some file := by
    rw [marks_ne_nil_iff, file?]
    by_cases silent : piece.emitted = [] <;> simp [silent, Option.bind_eq_some_iff]
  rw [content]
  constructor
  · rintro ⟨nonempty, span, span_eq, file_eq⟩
    obtain ⟨mark, mem⟩ := List.exists_mem_of_ne_nil _ nonempty
    have origin_span := span_of_mem_marks mem
    rw [span_eq, Option.map_eq_some_iff] at origin_span
    obtain ⟨origin, origin_eq, rfl⟩ := origin_span
    exact ⟨mark, mem, origin, origin_eq, file_eq⟩
  · rintro ⟨mark, mem, origin, origin_eq, file_eq⟩
    refine ⟨List.ne_nil_of_mem mem, origin.span, ?_, file_eq⟩
    rw [← span_of_mem_marks mem, origin_eq]
    rfl

end Piece

namespace Collector

/-- A draft is kept if and only if it holds an owned character. -/
theorem keeps_iff (interest : Option FileId) (draft : Draft) :
    keeps interest draft = true ↔
      ∃ mark ∈ draft.pieces.flatMap Piece.marks, ∃ origin, mark.origin = some origin ∧
        origin.isOwned interest = true := by
  cases interest with
  | none =>
      simp only [keeps, Draft.hasContent, List.any_eq_true, Piece.hasContent_iff, List.mem_flatMap,
        Origin.isOwned, and_true]
      constructor
      · rintro ⟨piece, piece_mem, mark, mark_mem, owned⟩
        exact ⟨mark, ⟨piece, piece_mem, mark_mem⟩, owned⟩
      · rintro ⟨mark, ⟨piece, piece_mem, mark_mem⟩, owned⟩
        exact ⟨piece, piece_mem, mark, mark_mem, owned⟩
  | some file =>
      simp only [keeps, Draft.files, List.contains_iff_mem, List.mem_eraseDups,
        List.mem_filterMap, Piece.file?_eq_some_iff, List.mem_flatMap, Origin.isOwned, beq_iff_eq]
      constructor
      · rintro ⟨piece, piece_mem, mark, mark_mem, owned⟩
        exact ⟨mark, ⟨piece, piece_mem, mark_mem⟩, owned⟩
      · rintro ⟨mark, ⟨piece, piece_mem, mark_mem⟩, owned⟩
        exact ⟨piece, piece_mem, mark, mark_mem, owned⟩

end Collector

namespace Stretch

theorem owned_chunk (interest : Option FileId) (stretch : Stretch) :
    stretch.chunk.owned interest =
      stretch.marks.filterMap (Mark.owned? interest stretch.language) := by
  rw [Chunk.owned, readings_chunk, List.filterMap_map]
  apply List.filterMap_congr
  intro mark _
  cases origin_eq : mark.origin with
  | none => simp [Mark.owned?, origin_eq]
  | some origin =>
      by_cases is_owned : origin.isOwned interest = true <;>
        simp [Mark.owned?, origin_eq, is_owned, Option.filter_some]

/-- A stretch is kept if and only if its chunk holds an owned character. -/
theorem keeps_draft (interest : Option FileId) (stretch : Stretch) :
    Collector.keeps interest stretch.draft = !(stretch.chunk.owned interest).isEmpty := by
  rw [Bool.eq_iff_iff, Collector.keeps_iff, owned_chunk, draft_pieces, ← marks,
    Bool.not_eq_true', List.isEmpty_eq_false_iff]
  constructor
  · rintro ⟨mark, mem, origin, origin_eq, is_owned⟩
    have owned : mark.owned? interest stretch.language =
        some ⟨mark.char, origin, stretch.language⟩ :=
      Mark.owned?_eq_some_iff.2 ⟨origin, origin_eq, is_owned, rfl⟩
    exact List.ne_nil_of_mem (List.mem_filterMap.2 ⟨mark, mem, owned⟩)
  · intro some_owned
    obtain ⟨char, char_mem⟩ := List.exists_mem_of_ne_nil _ some_owned
    obtain ⟨mark, mem, owned⟩ := List.mem_filterMap.1 char_mem
    obtain ⟨origin, origin_eq, is_owned, -⟩ := Mark.owned?_eq_some_iff.1 owned
    exact ⟨mark, mem, origin, origin_eq, is_owned⟩

end Stretch

namespace Collector

/-- The kept chunks are the finished ones that hold an owned character. -/
theorem collect_eq_filter_finished (limit : Int) (interest : Option FileId) (language : String)
    (events : List Event) :
    collect limit interest language events =
      (finished limit language events).filter fun chunk => !(chunk.owned interest).isEmpty := by
  rw [collect_eq_stretches, finished, List.filter_map]
  congr 1
  apply List.filter_congr
  intro stretch _
  exact stretch.keeps_draft interest

/-- The owned characters of all finished chunks are those that the events emit. -/
theorem flatMap_owned_finished (limit : Int) (interest : Option FileId) (language : String)
    (events : List Event) :
    (finished limit language events).flatMap (Chunk.owned interest) =
      Event.owned interest language events := by
  rw [Event.owned, ← flatMap_marks_stretches limit, List.filterMap_flatMap, finished,
    List.flatMap_map]
  apply List.flatMap_congr
  intro stretch _
  rw [stretch.owned_chunk interest, List.filterMap_map]
  rfl

/-- Leaving out chunks without owned characters leaves out no owned character. -/
theorem flatMap_owned_collect (limit : Int) (interest : Option FileId) (language : String)
    (events : List Event) :
    (collect limit interest language events).flatMap (Chunk.owned interest) =
      Event.owned interest language events := by
  rw [← flatMap_owned_finished limit, collect_eq_filter_finished]
  induction finished limit language events with
  | nil => rfl
  | cons chunk rest induction =>
      by_cases none_owned : chunk.owned interest = []
      · simpa [none_owned] using induction
      · simpa [none_owned] using induction

/-- A chunk that holds a character of a file holds a character of a node. -/
theorem owned_none_ne_nil {chunk : Chunk} {file : FileId} (owned : chunk.owned (some file) ≠ []) :
    chunk.owned none ≠ [] := by
  obtain ⟨char, origin, mem, -⟩ := Chunk.owned_ne_nil_iff.1 owned
  exact Chunk.owned_ne_nil_iff.2 ⟨char, origin, mem, rfl⟩

/-- Chunking neither loses nor alters prose.  The owned characters of the kept chunks, each with
its origin and language, are those that the events emit, whatever the limit; the kept chunks are
the finished ones that hold an owned character, and those of a file are the ones kept without a
file of interest that hold a character of the file. -/
theorem owned_collect (interest : Option FileId) (limit other : Int) (language : String)
    (events : List Event) :
    (collect limit interest language events).flatMap (Chunk.owned interest) =
        Event.owned interest language events ∧
      (collect limit interest language events).flatMap (Chunk.owned interest) =
        (collect other interest language events).flatMap (Chunk.owned interest) ∧
      collect limit interest language events =
        ((finished limit language events).filter fun chunk =>
          !(chunk.owned interest).isEmpty) ∧
      ∀ file, collect limit (some file) language events =
        (collect limit none language events).filter fun chunk =>
          !(chunk.owned (some file)).isEmpty := by
  refine ⟨flatMap_owned_collect limit interest language events, ?_,
    collect_eq_filter_finished limit interest language events, fun file => ?_⟩
  · rw [flatMap_owned_collect, flatMap_owned_collect]
  · rw [collect_eq_filter_finished, collect_eq_filter_finished limit none, List.filter_filter]
    apply List.filter_congr
    intro chunk _
    by_cases owned : chunk.owned (some file) = []
    · simp [owned]
    · simp [owned, owned_none_ne_nil owned]

end Collector
end ProseCheck
