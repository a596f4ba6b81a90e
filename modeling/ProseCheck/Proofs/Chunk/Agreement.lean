import Mathlib.Data.List.Chain
import ProseCheck.Proofs.Chunk.Building
import ProseCheck.Proofs.Chunk.Ownership
import ProseCheck.Proofs.Chunk.Request
import ProseCheck.Proofs.Text.Octets

/-!
# Agreement of segments, stream and position map

A builder shows what it was called for three times over: as segments of which neighbours differ in
kind, as one stream, and as runs of characters of one origin.  The three agree whatever the calls
are: the runs part the stream, the segments emit it, and the nodes and files that the builder notes
as its content are those of its runs.
-/

namespace ProseCheck

/-- All characters of a run come from its node. -/
theorem Entry.span_of_mem_marks {entry : Entry} {own : Text} {mark : Mark}
    (mem : mark ∈ entry.marks own) : mark.origin.map Origin.span = entry.span := by
  unfold marks at mem
  split at mem
  · rename_i no_span
    obtain ⟨char, -, rfl⟩ := List.mem_map.1 mem
    exact no_span.symm
  · rename_i span span_eq
    rw [span_eq]
    split at mem
    · exact Piece.span_of_mem_verbatim mem
    · obtain ⟨char, -, rfl⟩ := List.mem_map.1 mem
      rfl

/-- Runs that part a stream: none is empty, each starts where the one before it stops, and together
they reach from the first character of the stream to the last.  An exact run has as many octets as
its characters. -/
structure Parts (stream : Text) (entries : List Entry) : Prop where
  length_pos : ∀ entry ∈ entries, 0 < entry.length
  start_first : ∀ entry ∈ entries.head?, entry.start = 0
  adjacent : entries.IsChain fun entry next => next.start = entry.stop
  stop_last : ∀ entry ∈ entries.getLast?, entry.stop = stream.length
  nonempty : stream ≠ [] → entries ≠ []
  sized : ∀ entry ∈ entries, entry.exact = true →
    entry.sourceLength = Utf8.size (Slice.between stream entry.start entry.stop)

namespace Reads

variable {entries : List Entry} {marks : List Mark}

/-- Each run marks a part of the characters. -/
theorem exists_own (reads : Reads entries marks) {entry : Entry} (mem : entry ∈ entries) :
    ∃ before own after, marks = before ++ entry.marks own ++ after ∧ own ≠ [] ∧
      entry.start = before.length ∧ entry.length = own.length ∧
        (entry.exact = true → entry.sourceLength = Utf8.size own) := by
  induction reads with
  | nil => contradiction
  | @snoc entries marks last own reads nonempty start_eq length_eq sized induction =>
      rcases List.mem_append.1 mem with earlier | latest
      · obtain ⟨before, part, after, rfl, rest⟩ := induction earlier
        exact ⟨before, part, after ++ last.marks own, by simp, rest⟩
      · obtain rfl := List.mem_singleton.1 latest
        exact ⟨marks, own, [], by simp, nonempty, start_eq, length_eq, sized⟩

theorem stop_last (reads : Reads entries marks) :
    ∀ entry ∈ entries.getLast?, entry.stop = marks.length := by
  cases reads with
  | nil => simp
  | @snoc entries marks last own reads nonempty start_eq length_eq sized =>
      intro entry mem
      obtain rfl : last = entry := by simpa using mem
      simp [Entry.stop, start_eq, length_eq]

theorem entries_ne_nil (reads : Reads entries marks) (nonempty : marks ≠ []) : entries ≠ [] := by
  cases reads with
  | nil => contradiction
  | snoc => simp

theorem start_first (reads : Reads entries marks) :
    ∀ entry ∈ entries.head?, entry.start = 0 := by
  induction reads with
  | nil => simp
  | @snoc entries marks last own reads nonempty start_eq length_eq sized induction =>
      intro entry mem
      rw [List.head?_append, Option.mem_def, Option.or_eq_some_iff] at mem
      rcases mem with earlier | ⟨no_earlier, latest⟩
      · exact induction entry earlier
      · obtain rfl : last = entry := by simpa using latest
        have no_marks : marks = [] := by
          by_contra some_marks
          exact reads.entries_ne_nil some_marks (List.head?_eq_none_iff.1 no_earlier)
        simpa [no_marks] using start_eq

theorem adjacent (reads : Reads entries marks) :
    entries.IsChain fun entry next => next.start = entry.stop := by
  induction reads with
  | nil => exact .nil
  | @snoc entries marks last own reads nonempty start_eq length_eq sized induction =>
      refine List.isChain_append.2 ⟨induction, .singleton last, ?_⟩
      intro before before_mem entry mem
      obtain rfl : last = entry := by simpa using mem
      rw [start_eq, reads.stop_last before before_mem]

/-- Runs that read as marks part the stream of the marked characters. -/
theorem parts (reads : Reads entries marks) : Parts (marks.map Mark.char) entries where
  length_pos entry mem := (reads.mem_bounds mem).2.1
  start_first := reads.start_first
  adjacent := reads.adjacent
  stop_last := by
    rw [List.length_map]
    exact reads.stop_last
  nonempty some_chars := reads.entries_ne_nil fun no_marks => some_chars (by rw [no_marks]; rfl)
  sized entry mem is_exact := by
    obtain ⟨before, own, after, rfl, -, start_eq, length_eq, sized⟩ := reads.exists_own mem
    rw [sized is_exact, List.map_append, List.map_append, Entry.map_char_marks,
      Slice.between_middle]
    · rw [start_eq, List.length_map]
    · rw [Entry.stop, start_eq, length_eq, List.length_map]

/-- The nodes that characters come from are those of the runs. -/
theorem exists_span_iff (reads : Reads entries marks) (span : Span) :
    (∃ mark ∈ marks, ∃ origin, mark.origin = some origin ∧ origin.span = span) ↔
      ∃ entry ∈ entries, entry.span = some span := by
  have of_mark {entry : Entry} {own : Text} {mark : Mark} (mem : mark ∈ entry.marks own) :
      (∃ origin, mark.origin = some origin ∧ origin.span = span) ↔ entry.span = some span := by
    rw [← Entry.span_of_mem_marks mem, Option.map_eq_some_iff]
  constructor
  · rintro ⟨mark, mem, from_span⟩
    obtain ⟨index, inside, rfl⟩ := List.getElem_of_mem mem
    obtain ⟨front, entry, back, before, own, after, rfl, rfl, -, -, before_le, lt_own, -, -⟩ :=
      reads.exists_run inside
    have own_mem : (before ++ entry.marks own ++ after)[index] ∈ entry.marks own := by
      rw [List.getElem_append_left (by simpa using lt_own), List.getElem_append_right before_le]
      exact List.getElem_mem _
    exact ⟨entry, by simp, (of_mark own_mem).1 from_span⟩
  · rintro ⟨entry, mem, span_eq⟩
    obtain ⟨before, own, after, rfl, nonempty, -⟩ := reads.exists_own mem
    obtain ⟨mark, mark_mem⟩ := List.exists_mem_of_ne_nil (entry.marks own) fun no_marks => by
      have := congrArg List.length no_marks
      simp [nonempty] at this
    exact ⟨mark, by simp [mark_mem], (of_mark mark_mem).2 span_eq⟩

end Reads

namespace Segment

/-- A segment joins the first of others if that is of its kind, so that no two neighbours are. -/
theorem isChain_place (segment : Segment) {segments : List Segment}
    (differ : segments.IsChain fun left right => left.kind ≠ right.kind) :
    (segment.place segments).IsChain fun left right => left.kind ≠ right.kind := by
  cases segments with
  | nil => exact .singleton segment
  | cons next rest =>
      rw [place]
      split
      · rename_i same
        rw [List.isChain_cons] at differ ⊢
        exact ⟨fun other mem => same ▸ differ.1 other mem, differ.2⟩
      · rename_i other_kind
        exact .cons_cons other_kind differ

/-- Of joined segments no two neighbours are of one kind. -/
theorem isChain_merge (segments : List Segment) :
    (merge segments).IsChain fun left right => left.kind ≠ right.kind := by
  induction segments with
  | nil => exact .nil
  | cons segment rest induction => exact isChain_place segment induction

end Segment

namespace Draft

/-- A draft that has taken pieces one after the other. -/
def ofPieces (language : String) (pieces : List Piece) : Draft := pieces.foldl add (empty language)

theorem foldl_add (draft : Draft) (pieces : List Piece) :
    pieces.foldl add draft = { draft with current := draft.current ++ pieces } := by
  induction pieces generalizing draft with
  | nil => simp
  | cons piece rest induction =>
      rw [List.foldl_cons, induction]
      simp [add]

theorem ofPieces_eq (language : String) (pieces : List Piece) :
    ofPieces language pieces = ⟨language, [], pieces⟩ := by
  rw [ofPieces, foldl_add]
  rfl

/-- A draft that was never finished has content if a run of its position map comes from a node. -/
theorem hasContent_iff (draft : Draft) :
    draft.hasContent = true ↔
      ∃ entry ∈ draft.chunk.map.entries, ∃ span, entry.span = some span := by
  have reads : Reads draft.chunk.map.entries (draft.pieces.flatMap Piece.marks) :=
    Piece.reads_entries _
  have owned := Collector.keeps_iff none draft
  simp only [Collector.keeps, Origin.isOwned, and_true] at owned
  rw [owned]
  constructor
  · rintro ⟨mark, mem, origin, origin_eq⟩
    obtain ⟨entry, entry_mem, span_eq⟩ :=
      (reads.exists_span_iff origin.span).1 ⟨mark, mem, origin, origin_eq, rfl⟩
    exact ⟨entry, entry_mem, origin.span, span_eq⟩
  · rintro ⟨entry, mem, span, span_eq⟩
    obtain ⟨mark, mark_mem, origin, origin_eq, -⟩ :=
      (reads.exists_span_iff span).2 ⟨entry, mem, span_eq⟩
    exact ⟨mark, mark_mem, origin, origin_eq⟩

/-- The files of a draft are those of the nodes that runs of its position map come from. -/
theorem mem_files_iff (draft : Draft) (file : FileId) :
    file ∈ draft.files ↔
      ∃ entry ∈ draft.chunk.map.entries, ∃ span, entry.span = some span ∧
        span.file = some file := by
  have reads : Reads draft.chunk.map.entries (draft.pieces.flatMap Piece.marks) :=
    Piece.reads_entries _
  have owned := Collector.keeps_iff (some file) draft
  simp only [Collector.keeps, Origin.isOwned, List.contains_iff_mem, beq_iff_eq] at owned
  rw [owned]
  constructor
  · rintro ⟨mark, mem, origin, origin_eq, file_eq⟩
    obtain ⟨entry, entry_mem, span_eq⟩ :=
      (reads.exists_span_iff origin.span).1 ⟨mark, mem, origin, origin_eq, rfl⟩
    exact ⟨entry, entry_mem, origin.span, span_eq, file_eq⟩
  · rintro ⟨entry, mem, span, span_eq, file_eq⟩
    obtain ⟨mark, mark_mem, origin, origin_eq, rfl⟩ :=
      (reads.exists_span_iff span).2 ⟨entry, mem, span_eq⟩
    exact ⟨mark, mark_mem, origin, origin_eq, file_eq⟩

@[simp]
theorem map_chunk_finished (draft : Draft) : draft.finished.chunk.map = draft.chunk.map := by
  rw [chunk, chunk, pieces_finished]

end Draft

namespace Builder

/-- The views of a chunk and of the builder that finished it agree with one another and with the
pieces that the builder was called for. -/
structure Agrees (chunk : Chunk) (builder : Builder) (pieces : List Piece) : Prop where
  /-- A request for the chunk checks its stream. -/
  text_request : ∀ disabledRules allowedWords,
    (chunk.request disabledRules allowedWords).text = chunk.stream
  /-- The stream is what the pieces emit. -/
  stream_eq : chunk.stream = pieces.flatMap Piece.emitted
  length_eq : builder.length = chunk.stream.length
  /-- The runs of the position map part the stream. -/
  parts : Parts chunk.stream chunk.map.entries
  /-- No two neighbours among the segments are of one kind. -/
  differ : chunk.segments.IsChain fun left right => left.kind ≠ right.kind
  /-- The segments write down what the pieces were written as. -/
  written_eq : chunk.written = pieces.flatMap Piece.written
  hasContent_iff : builder.hasContent = true ↔
    ∃ entry ∈ chunk.map.entries, ∃ span, entry.span = some span
  mem_files_iff : ∀ file, file ∈ builder.files ↔
    ∃ entry ∈ chunk.map.entries, ∃ span, entry.span = some span ∧ span.file = some file

theorem shows_ofPieces (language : String) (pieces : List Piece) :
    (ofPieces language pieces).Shows (Draft.ofPieces language pieces) :=
  (shows_empty language).foldl_add pieces

/-- After any calls and a finish, segments, stream, position map and what the builder has noted
agree.  The draft that takes the same pieces shows what the builder does, and its chunk is the
finished one. -/
theorem agrees_ofPieces (language : String) (pieces : List Piece) :
    Agrees (ofPieces language pieces).finish.1 (ofPieces language pieces).finish.2 pieces ∧
      (ofPieces language pieces).Shows (Draft.ofPieces language pieces) ∧
      (ofPieces language pieces).finish.1 = (Draft.ofPieces language pieces).chunk := by
  obtain ⟨chunk_eq, shows⟩ := (shows_ofPieces language pieces).finish
  refine ⟨?_, shows_ofPieces language pieces, chunk_eq⟩
  rw [chunk_eq]
  constructor
  case text_request => exact Draft.text_request _
  case stream_eq =>
    rw [Draft.ofPieces_eq]
    rfl
  case length_eq =>
    rw [shows.length_eq, Draft.size, Draft.pieces_finished]
    rfl
  case parts =>
    rw [Draft.chunk, Chunk.stream, Piece.positionMap, Piece.stream_eq_map_marks]
    exact (Piece.reads_entries _).parts
  case differ =>
    rw [Draft.ofPieces_eq, Draft.chunk, List.nil_append, List.flatMap_singleton]
    exact Segment.isChain_merge (pieces.map Piece.segment)
  case written_eq =>
    rw [Draft.ofPieces_eq, Chunk.written, Draft.chunk, List.nil_append, List.flatMap_singleton]
    exact Piece.flatMap_written_segments pieces
  case hasContent_iff => rw [shows.hasContent_eq, Draft.hasContent_iff, Draft.map_chunk_finished]
  case mem_files_iff =>
    intro file
    rw [shows.files_eq, Draft.mem_files_iff, Draft.map_chunk_finished]

end Builder
end ProseCheck
