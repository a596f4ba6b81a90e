import Mathlib.Logic.Equiv.Defs
import ProseCheck.Proofs.Chunk.Stretch

/-!
# Renamed files

Files may be given other names, as long as no two of them get the same one.  Chunks tell names of
files apart and do nothing else with them: the chunks of renamed output are the chunks of the
output, renamed.
-/

namespace ProseCheck

variable (names : Equiv.Perm FileId)

/-- The span when files have other names. -/
def Span.renamed (span : Span) : Span := ⟨span.file.map names, span.number⟩

theorem Span.renamed_injective : Function.Injective (renamed names) := by
  intro span other same
  obtain ⟨file_eq, number_eq⟩ := Span.mk.inj same
  obtain ⟨file, number⟩ := span
  obtain rfl : number = other.number := number_eq
  have same_file : file = other.file := Option.map_injective names.injective file_eq
  rw [same_file]

/-- The origin when files have other names. -/
def Origin.renamed (origin : Origin) : Origin :=
  ⟨origin.span.renamed names, origin.start, origin.stop⟩

namespace Entry

/-- The run when files have other names. -/
def renamed (entry : Entry) : Entry := { entry with span := entry.span.map (Span.renamed names) }

theorem continues_renamed (last next : Entry) :
    (last.renamed names).continues (next.renamed names) = last.continues next := by
  have same_span : ((last.renamed names).span == (next.renamed names).span) =
      (last.span == next.span) := by
    rw [Bool.eq_iff_iff, beq_iff_eq, beq_iff_eq]
    exact (Option.map_injective (Span.renamed_injective names)).eq_iff
  have some_span : (last.renamed names).span.isSome = last.span.isSome := by
    simp [renamed]
  rw [continues, same_span, some_span]
  rfl

theorem push_renamed (entry : Entry) (entries : List Entry) :
    (entry.renamed names).push (entries.map (renamed names)) =
      (entry.push entries).map (renamed names) := by
  unfold push
  split
  · rename_i empty
    rw [if_pos (by exact empty)]
  · rename_i nonempty
    rw [if_neg (by exact nonempty), List.getLast?_map]
    cases entries.getLast? with
    | none => rfl
    | some last =>
        rw [Option.map_some]
        simp only [continues_renamed]
        split
        · rw [List.map_append, List.map_dropLast]
          rfl
        · rw [List.map_append]
          rfl

end Entry

namespace Piece

/-- The piece when files have other names. -/
def renamed : Piece → Piece
  | .plain written span offset => .plain written (span.map (Span.renamed names)) offset
  | .hidden written => .hidden written
  | .encoded written substitute span =>
    .encoded written substitute (span.map (Span.renamed names))

@[simp]
theorem emitted_renamed (piece : Piece) : (piece.renamed names).emitted = piece.emitted := by
  cases piece <;> rfl

@[simp]
theorem segment_renamed (piece : Piece) : (piece.renamed names).segment = piece.segment := by
  cases piece <;> rfl

theorem span?_renamed (piece : Piece) :
    (piece.renamed names).span? = piece.span?.map (Span.renamed names) := by
  cases piece <;> rfl

theorem entry_renamed (piece : Piece) (start : Nat) :
    (piece.renamed names).entry start = (piece.entry start).renamed names := by
  cases piece <;> rfl

theorem hasContent_renamed (piece : Piece) :
    (piece.renamed names).hasContent = piece.hasContent := by
  simp [hasContent, span?_renamed]

theorem file?_renamed (piece : Piece) :
    (piece.renamed names).file? = piece.file?.map names := by
  rw [file?, file?, emitted_renamed, span?_renamed]
  split
  · rfl
  · cases piece.span? <;> rfl

theorem stream_map_renamed (pieces : List Piece) :
    stream (pieces.map (renamed names)) = stream pieces := by
  simp [stream, List.flatMap_map]

theorem pushEntries_map_renamed (start : Nat) (entries : List Entry) (pieces : List Piece) :
    pushEntries start (entries.map (Entry.renamed names)) (pieces.map (renamed names)) =
      (pushEntries start entries pieces).map (Entry.renamed names) := by
  induction pieces generalizing start entries with
  | nil => rfl
  | cons piece rest induction =>
      rw [List.map_cons, pushEntries, pushEntries, emitted_renamed, entry_renamed,
        Entry.push_renamed, induction]

theorem segments_map_renamed (pieces : List Piece) :
    segments (pieces.map (renamed names)) = segments pieces := by
  rw [segments, segments, List.map_map]
  exact congrArg Segment.merge (List.map_congr_left fun piece _ => segment_renamed names piece)

end Piece

namespace PositionMap

/-- The position map when files have other names. -/
def renamed (map : PositionMap) : PositionMap :=
  ⟨map.stream, map.entries.map (Entry.renamed names)⟩

theorem entryAt?_renamed (map : PositionMap) (index : Int) :
    (map.renamed names).entryAt? index = (map.entryAt? index).map (Entry.renamed names) := by
  have starts_eq : (fun place : Nat => (map.entries.map (Entry.renamed names))[place]?.any
      fun entry : Entry => entry.start ≤ index) =
        fun place : Nat => map.entries[place]?.any fun entry : Entry => entry.start ≤ index := by
    funext place
    rw [List.getElem?_map]
    cases map.entries[place]? <;> rfl
  unfold entryAt?
  simp only [renamed, List.length_map, starts_eq]
  split
  · rfl
  · rename_i count _
    rw [List.getElem?_map]
    cases map.entries[count]? with
    | none => rfl
    | some entry =>
        have same_stop : (entry.renamed names).stop = entry.stop := rfl
        rw [Option.map_some, Option.filter_some, Option.filter_some, same_stop]
        split <;> rfl

theorem resolve_renamed (map : PositionMap) (index : Int) :
    (map.renamed names).resolve index =
      (map.resolve index).map (Option.map (Origin.renamed names)) := by
  rw [resolve, resolve, entryAt?_renamed]
  cases map.entryAt? index with
  | none => rfl
  | some entry =>
      obtain ⟨start, length, span, offset, exact, sourceLength⟩ := entry
      cases span with
      | none => rfl
      | some span =>
          cases exact with
          | false => rfl
          | true =>
              simp only [Option.map_some, Entry.renamed, renamed, if_true]
              cases Slice.item? map.stream index <;> rfl

theorem origin?_renamed (map : PositionMap) (index : Nat) :
    (map.renamed names).origin? index = (map.origin? index).map (Origin.renamed names) := by
  rw [origin?, origin?, resolve_renamed]
  cases map.resolve index <;> rfl

end PositionMap

/-- The chunk when files have other names. -/
def Chunk.renamed (chunk : Chunk) : Chunk :=
  ⟨chunk.segments, chunk.map.renamed names, chunk.language⟩

namespace Stretch

theorem chunk_renamed (stretch : Stretch) :
    (stretch.changed (Piece.renamed names)).chunk = stretch.chunk.renamed names := by
  have entries_eq := Piece.pushEntries_map_renamed names 0 [] (Event.pieces stretch.events)
  rw [List.map_nil] at entries_eq
  simp [chunk, draft, changed, Draft.chunk, Draft.pieces, Chunk.renamed, PositionMap.renamed,
    Piece.positionMap, Piece.stream_map_renamed, Piece.segments_map_renamed, Piece.entries,
    entries_eq]

theorem keeps_renamed (interest : Option FileId) (stretch : Stretch) :
    Collector.keeps (interest.map names) (stretch.changed (Piece.renamed names)).draft =
      Collector.keeps interest stretch.draft := by
  cases interest with
  | none =>
      simp [Collector.keeps, Draft.hasContent, changed, List.any_map, Function.comp_def,
        Piece.hasContent_renamed]
  | some file =>
      have files_eq : (stretch.changed (Piece.renamed names)).draft.pieces.filterMap Piece.file? =
          (stretch.draft.pieces.filterMap Piece.file?).map names := by
        rw [draft_pieces, draft_pieces, changed, Event.pieces_map_changed, List.filterMap_map,
          List.map_filterMap]
        exact List.filterMap_congr fun piece _ => piece.file?_renamed names
      have held : names file ∈ (stretch.changed (Piece.renamed names)).draft.files ↔
          file ∈ stretch.draft.files := by
        rw [Draft.files, Draft.files, List.mem_eraseDups, List.mem_eraseDups, files_eq,
          List.mem_map_of_injective names.injective]
      rw [Option.map_some, Collector.keeps, Collector.keeps, Bool.eq_iff_iff, List.contains_iff_mem,
        List.contains_iff_mem, held]

end Stretch

namespace Collector

/-- The chunks of renamed output are the renamed chunks of the output. -/
theorem collect_renamed (limit : Int) (interest : Option FileId) (language : String)
    (events : List Event) :
    collect limit (interest.map names) language (events.map (Event.changed (Piece.renamed names))) =
      (collect limit interest language events).map (Chunk.renamed names) := by
  have stretches_eq := stretches_map_changed
    (fun piece => congrArg List.length (piece.emitted_renamed names)) limit language events
  have kept : (fun stretch : Stretch => keeps (interest.map names) stretch.draft) ∘
      Stretch.changed (Piece.renamed names) = fun stretch => keeps interest stretch.draft :=
    funext (Stretch.keeps_renamed names interest)
  rw [collect_eq_stretches, collect_eq_stretches, stretches_eq, List.filter_map, List.map_map,
    List.map_map, kept]
  exact List.map_congr_left fun stretch _ => stretch.chunk_renamed names

end Collector
end ProseCheck
