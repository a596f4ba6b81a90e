import ProseCheck.Proofs.Chunk.Stretch

/-!
# The face of a chunk

The face of a chunk is all of it but the written texts of its segments: its stream, its position
map, its language and the kinds of its segments.  A hidden text reaches no face, and it decides
neither where chunks end nor which of them are kept.
-/

namespace ProseCheck
namespace Segment

theorem map_kind_place {segment other : Segment} {segments others : List Segment}
    (same_kind : segment.kind = other.kind) (same : segments.map kind = others.map kind) :
    (segment.place segments).map kind = (other.place others).map kind := by
  cases segments with
  | nil =>
      obtain rfl : others = [] := by simpa using same.symm
      simp [place, same_kind]
  | cons next rest =>
      obtain ⟨twin, twins, rfl, twin_kind, twins_eq⟩ := List.map_eq_cons_iff.1 same.symm
      rw [place, place, same_kind, ← twin_kind]
      split
      · simp [join, same_kind, twins_eq]
      · simp [same_kind, twin_kind, twins_eq]

/-- Which neighbours are joined hangs on their kinds alone. -/
theorem map_kind_merge {segments others : List Segment}
    (same : segments.map kind = others.map kind) :
    (merge segments).map kind = (merge others).map kind := by
  induction segments generalizing others with
  | nil =>
      obtain rfl : others = [] := by simpa using same.symm
      rfl
  | cons segment rest induction =>
      obtain ⟨other, others, rfl, other_kind, others_eq⟩ := List.map_eq_cons_iff.1 same.symm
      exact map_kind_place other_kind.symm (induction others_eq.symm)

end Segment

namespace Piece

/-- The piece without the text that it hides. -/
def blanked : Piece → Piece
  | .plain written span offset => .plain written span offset
  | .hidden _ => .hidden []
  | .encoded written substitute span => .encoded written substitute span

@[simp]
theorem emitted_blanked (piece : Piece) : piece.blanked.emitted = piece.emitted := by
  cases piece <;> rfl

@[simp]
theorem span?_blanked (piece : Piece) : piece.blanked.span? = piece.span? := by
  cases piece <;> rfl

@[simp]
theorem entry_blanked (piece : Piece) (start : Nat) :
    piece.blanked.entry start = piece.entry start := by
  cases piece <;> rfl

@[simp]
theorem kind_segment_blanked (piece : Piece) :
    piece.blanked.segment.kind = piece.segment.kind := by
  cases piece <;> rfl

@[simp]
theorem hasContent_blanked (piece : Piece) : piece.blanked.hasContent = piece.hasContent := by
  simp [hasContent]

@[simp]
theorem file?_blanked (piece : Piece) : piece.blanked.file? = piece.file? := by
  simp [file?]

@[simp]
theorem stream_map_blanked (pieces : List Piece) :
    stream (pieces.map blanked) = stream pieces := by
  simp [stream, List.flatMap_map]

theorem pushEntries_map_blanked (start : Nat) (entries : List Entry) (pieces : List Piece) :
    pushEntries start entries (pieces.map blanked) = pushEntries start entries pieces := by
  induction pieces generalizing start entries with
  | nil => rfl
  | cons piece rest induction =>
      rw [List.map_cons, pushEntries, pushEntries, emitted_blanked, entry_blanked, induction]

@[simp]
theorem positionMap_map_blanked (pieces : List Piece) :
    positionMap (pieces.map blanked) = positionMap pieces := by
  rw [positionMap, positionMap, stream_map_blanked, entries, entries, pushEntries_map_blanked]

theorem map_kind_segments_blanked (pieces : List Piece) :
    (segments (pieces.map blanked)).map Segment.kind = (segments pieces).map Segment.kind := by
  refine Segment.map_kind_merge ?_
  simp

end Piece

namespace Event

/-- The event without the text that it hides. -/
def blanked : Event → Event
  | .piece added => .piece added.blanked
  | .paragraphBreak => .paragraphBreak
  | .language next => .language next
  | .cut => .cut

theorem blanked_eq_changed : blanked = changed Piece.blanked := by
  funext event
  cases event <;> rfl

@[simp]
theorem pieces_map_blanked (events : List Event) :
    pieces (events.map blanked) = (pieces events).map Piece.blanked := by
  rw [blanked_eq_changed, pieces_map_changed]

end Event

namespace Stretch

/-- The stretch without the texts that its events hide. -/
def blanked (stretch : Stretch) : Stretch :=
  ⟨stretch.language, stretch.events.map Event.blanked, stretch.ending.map Event.blanked⟩

theorem blanked_eq_changed : blanked = changed Piece.blanked := by
  funext stretch
  rw [blanked, changed, Event.blanked_eq_changed]

theorem keeps_blanked (interest : Option FileId) (stretch : Stretch) :
    Collector.keeps interest stretch.blanked.draft = Collector.keeps interest stretch.draft := by
  cases interest with
  | none => simp [Collector.keeps, Draft.hasContent, blanked, List.any_map, Function.comp_def]
  | some file =>
      simp [Collector.keeps, Draft.files, blanked, List.filterMap_map]

end Stretch

/-- All of a chunk but the written texts of its segments. -/
structure Face where
  /-- Stream and origins of its characters. -/
  map : PositionMap
  /-- Language code. -/
  language : String
  /-- Kinds of the segments in order. -/
  kinds : List SegmentKind
deriving DecidableEq, Repr

namespace Chunk

/-- The face of a chunk. -/
def face (chunk : Chunk) : Face := ⟨chunk.map, chunk.language, chunk.segments.map Segment.kind⟩

end Chunk

theorem Stretch.face_blanked (stretch : Stretch) :
    stretch.blanked.chunk.face = stretch.chunk.face := by
  have kinds_eq := Piece.map_kind_segments_blanked (Event.pieces stretch.events)
  simp [Chunk.face, Stretch.chunk, Stretch.draft, Draft.chunk, Draft.pieces, blanked, kinds_eq]

namespace Collector

theorem map_face_collect_blanked (limit : Int) (interest : Option FileId) (language : String)
    (events : List Event) :
    (collect limit interest language (events.map Event.blanked)).map Chunk.face =
      (collect limit interest language events).map Chunk.face := by
  have blanked_stretches := stretches_map_changed
    (fun piece => congrArg List.length piece.emitted_blanked) limit language events
  rw [← Event.blanked_eq_changed, ← Stretch.blanked_eq_changed] at blanked_stretches
  rw [collect_eq_stretches, collect_eq_stretches, blanked_stretches, List.filter_map, List.map_map,
    List.map_map, List.map_map]
  have kept : ((fun stretch : Stretch => keeps interest stretch.draft) ∘ Stretch.blanked) =
      fun stretch => keeps interest stretch.draft := funext (Stretch.keeps_blanked interest)
  rw [kept]
  exact List.map_congr_left fun stretch _ => stretch.face_blanked

/-- Events that differ in hidden texts alone give chunks of the same faces. -/
theorem map_face_collect {events others : List Event}
    (same : events.map Event.blanked = others.map Event.blanked) (limit : Int)
    (interest : Option FileId) (language : String) :
    (collect limit interest language events).map Chunk.face =
      (collect limit interest language others).map Chunk.face := by
  rw [← map_face_collect_blanked, same, map_face_collect_blanked]

end Collector
end ProseCheck
