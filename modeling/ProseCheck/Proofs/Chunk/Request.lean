import ProseCheck.Check.Chunks
import ProseCheck.Proofs.Chunk.Stretch

/-!
# Requests of chunks

Joining segments changes neither what they emit nor what they were written as, so the text of a
request is the stream of the chunk that it checks.
-/

namespace ProseCheck
namespace Segment

theorem emitted_join {first second : Segment} (same : first.kind = second.kind) :
    (first.join second).emitted = first.emitted ++ second.emitted := by
  unfold emitted join
  rw [← same]
  cases first.kind <;> rfl

theorem written_join (first second : Segment) :
    (first.join second).written = first.written ++ second.written := rfl

section

variable {view : Segment → Text}
  (view_join : ∀ first second : Segment, first.kind = second.kind →
    view (first.join second) = view first ++ view second)
include view_join

theorem flatMap_place (segment : Segment) (segments : List Segment) :
    (segment.place segments).flatMap view = view segment ++ segments.flatMap view := by
  cases segments with
  | nil => simp [place]
  | cons next rest =>
      rw [place]
      split
      · rename_i same
        rw [List.flatMap_cons, view_join segment next same, List.flatMap_cons, List.append_assoc]
      · rw [List.flatMap_cons]

/-- What two joined segments show is what they showed apart, so the same holds of all. -/
theorem flatMap_merge (segments : List Segment) :
    (merge segments).flatMap view = segments.flatMap view := by
  induction segments with
  | nil => rfl
  | cons segment rest induction =>
      rw [List.flatMap_cons, ← induction]
      exact flatMap_place view_join segment (merge rest)

end

/-- Joined segments emit what they emitted apart. -/
theorem flatMap_emitted_merge (segments : List Segment) :
    (merge segments).flatMap emitted = segments.flatMap emitted :=
  flatMap_merge (fun _ _ same => emitted_join same) segments

/-- Joined segments were written as they were apart. -/
theorem flatMap_written_merge (segments : List Segment) :
    (merge segments).flatMap written = segments.flatMap written :=
  flatMap_merge (fun first second _ => written_join first second) segments

end Segment

theorem Piece.flatMap_emitted_segments (pieces : List Piece) :
    (segments pieces).flatMap Segment.emitted = stream pieces := by
  rw [segments, Segment.flatMap_emitted_merge, List.flatMap_map, stream]
  exact List.flatMap_congr fun piece _ => piece.emitted_segment

theorem Piece.flatMap_written_segments (pieces : List Piece) :
    (segments pieces).flatMap Segment.written = pieces.flatMap written := by
  rw [segments, Segment.flatMap_written_merge, List.flatMap_map]
  exact List.flatMap_congr fun piece _ => piece.written_segment

/-- The request that checks the chunk of a draft has the stream of the chunk as its text. -/
theorem Draft.text_request (draft : Draft) (disabledRules allowedWords : Option (List String)) :
    (draft.chunk.request disabledRules allowedWords).text = draft.chunk.stream := by
  have grouped : (draft.closed ++ [draft.current]).flatMap Piece.stream =
      Piece.stream draft.pieces := by
    rw [List.flatMap_append, List.flatMap_singleton, pieces, Piece.stream_append]
    congr 1
    rw [Piece.stream, ← List.flatMap_id, List.flatMap_assoc]
    rfl
  calc
    _ = ((draft.closed ++ [draft.current]).flatMap Piece.segments).flatMap Segment.emitted := rfl
    _ = (draft.closed ++ [draft.current]).flatMap Piece.stream := by
      rw [List.flatMap_assoc]
      exact List.flatMap_congr fun pieces _ => Piece.flatMap_emitted_segments pieces
    _ = draft.chunk.stream := grouped

/-- So does the request that checks a collected chunk. -/
theorem Collector.text_request_of_mem_collect {limit : Int} {interest : Option FileId}
    {language : String} {events : List Event} {chunk : Chunk}
    (mem : chunk ∈ collect limit interest language events)
    (disabledRules allowedWords : Option (List String)) :
    (chunk.request disabledRules allowedWords).text = chunk.stream := by
  rw [collect_eq_stretches] at mem
  obtain ⟨stretch, -, rfl⟩ := List.mem_map.1 mem
  exact stretch.draft.text_request disabledRules allowedWords

/-- And the request that checks a chunk of a world, whether pages or sources were converted. -/
theorem World.text_request_of_mem_chunks {world : World} {options : Options} {allFiles : Bool}
    {chunk : Chunk} (mem : chunk ∈ world.chunks options allFiles)
    (disabledRules allowedWords : Option (List String)) :
    (chunk.request disabledRules allowedWords).text = chunk.stream := by
  unfold chunks at mem
  split at mem
  · exact Collector.text_request_of_mem_collect mem disabledRules allowedWords
  · obtain ⟨file, -, mem⟩ := List.mem_flatMap.1 mem
    unfold fileChunks at mem
    split at mem
    · exact Collector.text_request_of_mem_collect mem disabledRules allowedWords
    · contradiction

end ProseCheck
