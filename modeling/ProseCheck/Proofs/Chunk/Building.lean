import ProseCheck.Chunk.Builder
import ProseCheck.Proofs.Chunk.Request

/-!
# Building a chunk call by call

A builder joins segments from the left, with one pending, and keeps the views of its output apart
from one another.  A draft keeps pieces and has all views follow from them.  After the same calls
the two show the same: each call keeps them in step, and so does a finish.
-/

namespace ProseCheck

namespace Segment

theorem place_append (segment : Segment) {front : List Segment} (nonempty : front ≠ [])
    (back : List Segment) : segment.place (front ++ back) = segment.place front ++ back := by
  obtain ⟨first, rest, rfl⟩ := List.exists_cons_of_ne_nil nonempty
  rw [List.cons_append, place, place]
  split <;> rfl

/-- Two segments as one if they are of one kind. -/
def pair (first second : Segment) : List Segment :=
  if first.kind = second.kind then [first.join second] else [first, second]

theorem place_singleton (segment next : Segment) : segment.place [next] = segment.pair next := rfl

theorem join_assoc (first second third : Segment) :
    (first.join second).join third = first.join (second.join third) := by
  simp [join]

/-- A segment that is placed before a pair either joins it or stands apart from it. -/
theorem place_pair (segment pending last : Segment) :
    segment.place (pending.pair last) =
      if segment.kind = pending.kind then (segment.join pending).pair last
      else segment :: pending.pair last := by
  have kind_join (first second : Segment) : (first.join second).kind = first.kind := rfl
  by_cases closes : pending.kind = last.kind
  · rw [pair, if_pos closes, place_singleton, pair, pair, kind_join, kind_join, join_assoc]
    split
    · rename_i same
      rw [if_pos (same.trans closes)]
    · rfl
  · rw [pair, if_neg closes, place]
    split
    · rename_i same
      rw [pair, kind_join, if_neg (same ▸ closes)]
    · rfl

/-- One more segment joins the last one of those that were joined, if that is of its kind. -/
theorem exists_merge_concat {segments : List Segment} (nonempty : segments ≠ [])
    (last : Segment) :
    ∃ front pending, merge segments = front ++ [pending] ∧
      merge (segments ++ [last]) = front ++ pending.pair last := by
  induction segments with
  | nil => contradiction
  | cons segment rest induction =>
      rcases eq_or_ne rest [] with rfl | more
      · exact ⟨[], segment, rfl, rfl⟩
      · obtain ⟨front, pending, merge_eq, concat_eq⟩ := induction more
        rw [List.cons_append, merge, merge, List.foldr_cons, List.foldr_cons, ← merge, ← merge,
          merge_eq, concat_eq]
        rcases eq_or_ne front [] with rfl | front_ne
        · rw [List.nil_append, List.nil_append, place_pair, place_singleton, pair]
          split
          · exact ⟨[], segment.join pending, rfl, rfl⟩
          · exact ⟨[segment], pending, rfl, rfl⟩
        · rw [place_append _ front_ne, place_append _ front_ne]
          exact ⟨segment.place front, pending, rfl, rfl⟩

end Segment

namespace Piece

theorem pushEntries_append (start : Nat) (entries : List Entry) (front back : List Piece) :
    pushEntries start entries (front ++ back) =
      pushEntries (start + (stream front).length) (pushEntries start entries front) back := by
  induction front generalizing start entries with
  | nil => rfl
  | cons piece rest induction =>
      have length_eq : (stream (piece :: rest)).length =
          piece.emitted.length + (stream rest).length := by simp [stream]
      rw [List.cons_append, pushEntries, induction, pushEntries, length_eq, Nat.add_assoc]

theorem entries_concat (pieces : List Piece) (piece : Piece) :
    entries (pieces ++ [piece]) =
      (piece.entry (stream pieces).length).push (entries pieces) := by
  rw [entries, pushEntries_append, Nat.zero_add]
  rfl

end Piece

namespace Draft

@[simp]
theorem pieces_add (draft : Draft) (piece : Piece) :
    (draft.add piece).pieces = draft.pieces ++ [piece] := by
  simp [add, pieces]

@[simp]
theorem pieces_finished (draft : Draft) : draft.finished.pieces = draft.pieces := by
  simp [finished, pieces]

theorem size_add (draft : Draft) (piece : Piece) :
    (draft.add piece).size = draft.size + piece.emitted.length := by
  simp [size, Piece.stream]

theorem hasContent_add (draft : Draft) (piece : Piece) :
    (draft.add piece).hasContent = (draft.hasContent || piece.hasContent) := by
  simp [hasContent]

theorem files_add (draft : Draft) (piece : Piece) :
    (draft.add piece).files = Builder.withFile draft.files piece.file? := by
  rw [files, pieces_add, List.filterMap_append, files]
  generalize draft.pieces.filterMap Piece.file? = seen
  cases file_eq : piece.file? with
  | none => simp [file_eq, Builder.withFile]
  | some file =>
      have same : seen.eraseDups.contains file = seen.contains file := by
        rw [Bool.eq_iff_iff, List.contains_iff_mem, List.contains_iff_mem, List.mem_eraseDups]
      rw [List.filterMap_cons_some file_eq, List.filterMap_nil, List.eraseDups_append,
        Builder.withFile, same]
      by_cases known : file ∈ seen
      · simp [List.removeAll, known]
      · simp [List.removeAll, known, List.eraseDups_cons]

end Draft

namespace Builder

/-! ## What one call changes -/

section Push

variable (builder : Builder) (segment : Segment)

theorem push_of_pending_eq_none (no_pending : builder.pending = none) :
    builder.push segment = { builder with pending := some segment } := by
  rw [push, no_pending]

theorem push_of_pending_eq_some {pending : Segment} (pending_eq : builder.pending = some pending) :
    builder.push segment =
      if pending.kind = segment.kind then { builder with pending := some (pending.join segment) }
      else { builder with segments := builder.segments ++ [pending], pending := some segment } := by
  rw [push, pending_eq, flush, pending_eq]

/-- A segment that is taken changes segments only. -/
theorem exists_push_eq : ∃ segments pending,
    builder.push segment = { builder with segments, pending } := by
  cases pending_eq : builder.pending with
  | none => exact ⟨_, _, builder.push_of_pending_eq_none segment pending_eq⟩
  | some pending =>
      rw [builder.push_of_pending_eq_some segment pending_eq]
      split
      · exact ⟨_, _, rfl⟩
      · exact ⟨_, _, rfl⟩

end Push

section Emit

variable (builder : Builder) (text : Text) (span : Option Span) (offset : Int) (exact : Bool)
  (sourceLength : Int)

/-- Characters that are taken change no segment, and nothing at all if there are none. -/
theorem exists_emit_eq : ∃ parts, parts.flatten = builder.parts.flatten ++ text ∧
    builder.emit text span offset exact sourceLength =
      { builder with
        parts
        entries := Entry.push ⟨builder.length, text.length, span, offset, exact, sourceLength⟩
          builder.entries
        length := builder.length + text.length
        hasContent := builder.hasContent || (!text.isEmpty && span.isSome)
        files := withFile builder.files (if text.isEmpty then none else span.bind Span.file) } := by
  rw [emit]
  split
  · rename_i empty
    obtain rfl := List.isEmpty_iff.1 empty
    exact ⟨builder.parts, (List.append_nil _).symm, by simp [Entry.push, withFile]⟩
  · refine ⟨builder.parts ++ [text], by simp, ?_⟩
    cases span <;> simp_all [note, withFile]

end Emit

/-- A call takes the segment of its piece, and then the characters. -/
theorem add_eq (builder : Builder) (piece : Piece) :
    builder.add piece = (builder.push piece.segment).emit piece.emitted piece.span?
      (piece.entry 0).offset (piece.entry 0).exact (piece.entry 0).sourceLength := by
  cases piece <;> rfl

/-! ## Builders and drafts -/

/-- A builder shows what a draft does. -/
structure Shows (builder : Builder) (draft : Draft) : Prop where
  language_eq : builder.language = draft.language
  segments_eq : builder.segments = draft.sealedSegments
  pending_eq : builder.pending = (Piece.segments draft.current).getLast?
  stream_eq : builder.parts.flatten = Piece.stream draft.pieces
  entries_eq : builder.entries = Piece.entries draft.pieces
  length_eq : builder.length = draft.size
  hasContent_eq : builder.hasContent = draft.hasContent
  files_eq : builder.files = draft.files

theorem shows_empty (language : String) : (empty language).Shows (.empty language) := by
  constructor <;> rfl

namespace Shows

variable {builder : Builder} {draft : Draft}

/-- The pending segment stands behind the sealed ones. -/
theorem segments_flush (shows : builder.Shows draft) :
    builder.flush.segments = (draft.closed ++ [draft.current]).flatMap Piece.segments := by
  have pending_eq := shows.pending_eq
  rw [List.flatMap_append, List.flatMap_singleton, flush]
  cases last : builder.pending with
  | none =>
      rw [last, eq_comm, List.getLast?_eq_none_iff] at pending_eq
      simp [shows.segments_eq, Draft.sealedSegments, pending_eq]
  | some pending =>
      rw [last] at pending_eq
      dsimp only
      rw [shows.segments_eq, Draft.sealedSegments, List.append_assoc,
        List.dropLast_append_getLast? pending pending_eq.symm]

/-- Segments of a builder go on as those of a draft do. -/
theorem segments_push (shows : builder.Shows draft) (piece : Piece) :
    (builder.push piece.segment).segments = (draft.add piece).sealedSegments ∧
      (builder.push piece.segment).pending =
        (Piece.segments (draft.add piece).current).getLast? := by
  have current_eq : Piece.segments (draft.add piece).current =
      Segment.merge (draft.current.map Piece.segment ++ [piece.segment]) := by
    simp [Draft.add, Piece.segments]
  rw [Draft.sealedSegments, current_eq]
  rcases eq_or_ne draft.current [] with no_pieces | some_pieces
  · have no_pending : builder.pending = none := by
      rw [shows.pending_eq, no_pieces]
      rfl
    rw [push_of_pending_eq_none _ _ no_pending, shows.segments_eq, Draft.sealedSegments, no_pieces]
    exact ⟨rfl, rfl⟩
  · have some_segments : draft.current.map Piece.segment ≠ [] := by simpa using some_pieces
    obtain ⟨front, pending, merge_eq, concat_eq⟩ :=
      Segment.exists_merge_concat some_segments piece.segment
    have pending_eq : builder.pending = some pending := by
      rw [shows.pending_eq, Piece.segments, merge_eq, List.getLast?_concat]
    rw [push_of_pending_eq_some _ _ pending_eq, concat_eq, Segment.pair, shows.segments_eq,
      Draft.sealedSegments, Piece.segments, merge_eq]
    split
    · simp [Draft.add]
    · simp [Draft.add]

/-- A call keeps a builder and a draft in step. -/
theorem add (shows : builder.Shows draft) (piece : Piece) :
    (builder.add piece).Shows (draft.add piece) := by
  obtain ⟨segments_eq, pending_eq⟩ := shows.segments_push piece
  obtain ⟨segments, pending, push_eq⟩ := builder.exists_push_eq piece.segment
  rw [add_eq]
  rw [push_eq] at segments_eq pending_eq ⊢
  obtain ⟨parts, stream_eq, emit_eq⟩ := exists_emit_eq { builder with segments, pending }
    piece.emitted piece.span? (piece.entry 0).offset (piece.entry 0).exact
    (piece.entry 0).sourceLength
  rw [emit_eq]
  constructor
  case language_eq => exact shows.language_eq
  case segments_eq => exact segments_eq
  case pending_eq => exact pending_eq
  case stream_eq =>
    rw [stream_eq, shows.stream_eq, Draft.pieces_add, Piece.stream_append]
    simp [Piece.stream]
  case entries_eq =>
    have entry_eq : (⟨builder.length, piece.emitted.length, piece.span?, (piece.entry 0).offset,
        (piece.entry 0).exact, (piece.entry 0).sourceLength⟩ : Entry) =
          piece.entry (Piece.stream draft.pieces).length := by
      rw [shows.length_eq]
      cases piece <;> rfl
    rw [Draft.pieces_add, Piece.entries_concat, ← shows.entries_eq, ← entry_eq]
  case length_eq => rw [Draft.size_add, ← shows.length_eq]
  case hasContent_eq =>
    rw [Draft.hasContent_add, ← shows.hasContent_eq]
    rfl
  case files_eq =>
    rw [Draft.files_add, ← shows.files_eq]
    rfl

/-- A finish gives the chunk of the draft and keeps the two in step. -/
theorem finish (shows : builder.Shows draft) :
    builder.finish.1 = draft.chunk ∧ builder.finish.2.Shows draft.finished := by
  have unflushed : builder.flush =
      { builder with segments := builder.flush.segments, pending := none } := by
    rw [flush]
    split
    · rfl
    · rename_i no_pending
      rw [← no_pending]
  constructor
  · rw [Builder.finish, Draft.chunk, shows.segments_flush, unflushed, shows.stream_eq,
      shows.entries_eq, shows.language_eq]
    rfl
  · rw [Builder.finish, unflushed]
    constructor
    case language_eq => exact shows.language_eq
    case segments_eq =>
      rw [shows.segments_flush]
      exact (List.append_nil _).symm
    case pending_eq => rfl
    case stream_eq => rw [Draft.pieces_finished, ← shows.stream_eq]
    case entries_eq => rw [Draft.pieces_finished, ← shows.entries_eq]
    case length_eq => rw [Draft.size, Draft.pieces_finished, shows.length_eq, Draft.size]
    case hasContent_eq =>
      rw [Draft.hasContent, Draft.pieces_finished, shows.hasContent_eq, Draft.hasContent]
    case files_eq => rw [Draft.files, Draft.pieces_finished, shows.files_eq, Draft.files]

/-- Calls in order keep a builder and a draft in step. -/
theorem foldl_add (shows : builder.Shows draft) (pieces : List Piece) :
    (pieces.foldl Builder.add builder).Shows (pieces.foldl Draft.add draft) := by
  induction pieces generalizing builder draft with
  | nil => exact shows
  | cons piece rest induction => exact induction (shows.add piece)

end Shows

end Builder
end ProseCheck
