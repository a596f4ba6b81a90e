import Mathlib.Data.List.Basic
import ProseCheck.Chunk.Collector
import ProseCheck.Proofs.Chunk.Reading

/-!
# Stretches of a run

A run of a collector divides its events into stretches: one for every chunk that it finishes, kept
or not, the last one being the chunk that is in the making when the run is over.  Each event stands
in one stretch, and the collected chunks are those of the stretches that the collector keeps.  The
characters of all stretches, each in the language of its chunk, do not depend on the size limit.
-/

namespace ProseCheck
namespace Event

/-- The piece that an event adds. -/
def piece? : Event → Option Piece
  | .piece added => some added
  | .paragraphBreak | .language _ | .cut => none

/-- Pieces that events add, in order. -/
def pieces (events : List Event) : List Piece := events.filterMap piece?

/-- Number of characters that events add to a stream. -/
def size (events : List Event) : Nat := (Piece.stream (pieces events)).length

/-- Characters that events emit, each with the language in force. -/
def emissions (language : String) : List Event → List (Mark × String)
  | [] => []
  | .piece added :: rest => added.marks.map (·, language) ++ emissions language rest
  | .language next :: rest => emissions next rest
  | .paragraphBreak :: rest | .cut :: rest => emissions language rest

@[simp]
theorem pieces_nil : pieces [] = [] := rfl

@[simp]
theorem pieces_cons (event : Event) (rest : List Event) :
    pieces (event :: rest) = event.piece?.toList ++ pieces rest := by
  cases event <;> rfl

@[simp]
theorem pieces_append (left right : List Event) :
    pieces (left ++ right) = pieces left ++ pieces right := by
  simp [pieces]

@[simp]
theorem pieces_map_piece (added : List Piece) : pieces (added.map .piece) = added := by
  simp [pieces, List.filterMap_map, Function.comp_def, piece?]

@[simp]
theorem size_append (left right : List Event) :
    size (left ++ right) = size left + size right := by
  simp [size]

@[simp]
theorem size_paragraphBreak_cons (rest : List Event) :
    size (.paragraphBreak :: rest) = size rest := rfl

end Event

/-- The events of one chunk. -/
structure Stretch where
  /-- Language of the chunk. -/
  language : String
  /-- Events during which the chunk was in the making. -/
  events : List Event
  /-- The event that ended the chunk; none if the run ended before. -/
  ending : Option Event

namespace Stretch

/-- All events of a stretch. -/
def taken (stretch : Stretch) : List Event := stretch.events ++ stretch.ending.toList

/-- The draft of the chunk when it ends. -/
def draft (stretch : Stretch) : Draft := ⟨stretch.language, [], Event.pieces stretch.events⟩

/-- The finished chunk. -/
def chunk (stretch : Stretch) : Chunk := stretch.draft.chunk

/-- Number of characters of the finished chunk. -/
def size (stretch : Stretch) : Nat := Event.size stretch.events

/-- Characters of the finished chunk. -/
def marks (stretch : Stretch) : List Mark := (Event.pieces stretch.events).flatMap Piece.marks

@[simp]
theorem draft_pieces (stretch : Stretch) : stretch.draft.pieces = Event.pieces stretch.events := rfl

@[simp]
theorem chunk_language (stretch : Stretch) : stretch.chunk.language = stretch.language := rfl

theorem chunk_map (stretch : Stretch) :
    stretch.chunk.map = Piece.positionMap (Event.pieces stretch.events) := rfl

theorem readings_chunk (stretch : Stretch) :
    stretch.chunk.map.readings = stretch.marks.map fun mark => (mark.char, .ok mark.origin) := by
  rw [chunk_map, Piece.readings_positionMap, marks]

end Stretch

namespace Collector

/-- Language of the next chunk if an event ends the chunk of a draft. -/
def successor? (limit : Int) (draft : Draft) : Event → Option String
  | .piece _ => none
  | .paragraphBreak => if limit < draft.size then some draft.language else none
  | .language language => if language = draft.language then none else some language
  | .cut => some draft.language

/-- A collector whose chunk in the making took some events. -/
def making (limit : Int) (interest : Option FileId) (language : String) (taken : List Event)
    (chunks : List Chunk) : Collector :=
  ⟨limit, interest, ⟨language, [], Event.pieces taken⟩, chunks⟩

/-- An event that ends the chunk begins the next one and does nothing else. -/
theorem step_of_successor? {collector : Collector} {event : Event} {language : String}
    (ends : successor? collector.limit collector.draft event = some language) :
    collector.step event = collector.cutTo language := by
  cases event with
  | piece piece => simp [successor?] at ends
  | paragraphBreak =>
      simp only [successor?, Option.ite_none_right_eq_some, Option.some.injEq] at ends
      simp [step, ends.1, cut, ends.2]
  | language next =>
      simp only [successor?, Option.ite_none_left_eq_some, Option.some.injEq] at ends
      simp [step, ← ends.2, ends.1]
  | cut =>
      simp only [successor?, Option.some.injEq] at ends
      simp [step, cut, ends]

/-- Any other event adds its piece to the chunk. -/
theorem step_of_no_successor {collector : Collector} {event : Event}
    (goes_on : successor? collector.limit collector.draft event = none) :
    collector.step event =
      { collector with
        draft :=
          { collector.draft with
            current := collector.draft.current ++ Event.pieces [event] } } := by
  cases event with
  | piece piece => rfl
  | paragraphBreak =>
      have fits : ¬ collector.limit < collector.draft.size := by
        simpa [successor?] using goes_on
      simp [step, fits, Event.piece?]
  | language next =>
      have same : next = collector.draft.language := by simpa [successor?] using goes_on
      simp [step, same, Event.piece?]
  | cut => simp [successor?] at goes_on

section

variable {limit : Int} {interest : Option FileId} {language : String} {taken : List Event}
  {chunks : List Chunk} {event : Event}

theorem step_making_of_joins
    (goes_on : successor? limit ⟨language, [], Event.pieces taken⟩ event = none) :
    (making limit interest language taken chunks).step event =
      making limit interest language (taken ++ [event]) chunks := by
  rw [step_of_no_successor (by exact goes_on)]
  simp [making]

theorem step_making_of_ends {next : String}
    (ends : successor? limit ⟨language, [], Event.pieces taken⟩ event = some next) :
    (making limit interest language taken chunks).step event =
      making limit interest next []
        ((making limit interest language taken chunks).cutTo next).chunks := by
  rw [step_of_successor? (by exact ends)]
  rfl

end

/-- Stretches of the events still to come, when the chunk in the making took some events. -/
def stretchesFrom (limit : Int) (language : String) (taken : List Event) :
    List Event → List Stretch
  | [] => [⟨language, taken, none⟩]
  | event :: rest =>
    match successor? limit ⟨language, [], Event.pieces taken⟩ event with
    | none => stretchesFrom limit language (taken ++ [event]) rest
    | some next => ⟨language, taken, some event⟩ :: stretchesFrom limit next [] rest

section

variable {limit : Int} {language : String} {taken : List Event} {event : Event}

theorem stretchesFrom_of_joins
    (goes_on : successor? limit ⟨language, [], Event.pieces taken⟩ event = none)
    (rest : List Event) :
    stretchesFrom limit language taken (event :: rest) =
      stretchesFrom limit language (taken ++ [event]) rest := by
  simp only [stretchesFrom, goes_on]

theorem stretchesFrom_of_ends {next : String}
    (ends : successor? limit ⟨language, [], Event.pieces taken⟩ event = some next)
    (rest : List Event) :
    stretchesFrom limit language taken (event :: rest) =
      ⟨language, taken, some event⟩ :: stretchesFrom limit next [] rest := by
  simp only [stretchesFrom, ends]

end

/-- Stretches of a whole run. -/
def stretches (limit : Int) (language : String) (events : List Event) : List Stretch :=
  stretchesFrom limit language [] events

/-- Finished chunks of a whole run, kept or not. -/
def finished (limit : Int) (language : String) (events : List Event) : List Chunk :=
  (stretches limit language events).map Stretch.chunk

/-- Events none of which ends the chunk that it joins. -/
def Joins (limit : Int) (language : String) (taken : List Event) : Prop :=
  ∀ before event after, taken = before ++ event :: after →
    successor? limit ⟨language, [], Event.pieces before⟩ event = none

theorem Joins.nil (limit : Int) (language : String) : Joins limit language [] := by
  intro before event after split
  simp at split

theorem Joins.concat {limit : Int} {language : String} {taken : List Event}
    (joins : Joins limit language taken) {event : Event}
    (goes_on : successor? limit ⟨language, [], Event.pieces taken⟩ event = none) :
    Joins limit language (taken ++ [event]) := by
  intro before other after split
  rcases List.eq_nil_or_concat after with rfl | ⟨front, last, rfl⟩
  · obtain ⟨rfl, same⟩ := List.append_inj' split rfl
    obtain rfl : event = other := by simpa using same
    exact goes_on
  · rw [List.concat_eq_append, ← List.cons_append, ← List.append_assoc] at split
    exact joins before other front (List.append_inj' split rfl).1

/-- The events of a stretch join its chunk, and its ending ends it. -/
theorem joins_of_mem_stretchesFrom {limit : Int} {language : String} {taken events : List Event}
    (joins : Joins limit language taken) {stretch : Stretch}
    (mem : stretch ∈ stretchesFrom limit language taken events) :
    Joins limit stretch.language stretch.events ∧
      ∀ event, stretch.ending = some event →
        ∃ next, successor? limit stretch.draft event = some next := by
  induction events generalizing language taken with
  | nil =>
      obtain rfl := List.mem_singleton.1 mem
      exact ⟨joins, by simp⟩
  | cons event rest induction =>
      unfold stretchesFrom at mem
      split at mem
      · rename_i goes_on
        exact induction (joins.concat goes_on) mem
      · rename_i next ends
        rcases List.mem_cons.1 mem with rfl | mem
        · refine ⟨joins, fun other ending => ⟨next, ?_⟩⟩
          obtain rfl := Option.some.inj ending
          exact ends
        · exact induction (.nil limit next) mem

theorem joins_of_mem_stretches {limit : Int} {language : String} {events : List Event}
    {stretch : Stretch} (mem : stretch ∈ stretches limit language events) :
    Joins limit stretch.language stretch.events :=
  (joins_of_mem_stretchesFrom (.nil limit language) mem).1

theorem exists_successor_of_ending {limit : Int} {language : String} {events : List Event}
    {stretch : Stretch} (mem : stretch ∈ stretches limit language events) {event : Event}
    (ending : stretch.ending = some event) :
    ∃ next, successor? limit stretch.draft event = some next :=
  (joins_of_mem_stretchesFrom (.nil limit language) mem).2 event ending

/-- Every event stands in one stretch, in order. -/
theorem flatMap_taken_stretchesFrom (limit : Int) (language : String) (taken events : List Event) :
    (stretchesFrom limit language taken events).flatMap Stretch.taken = taken ++ events := by
  induction events generalizing language taken with
  | nil => simp [stretchesFrom, Stretch.taken]
  | cons event rest induction =>
      unfold stretchesFrom
      split
      · rw [induction]
        simp
      · rw [List.flatMap_cons, induction]
        simp [Stretch.taken]

theorem flatMap_taken_stretches (limit : Int) (language : String) (events : List Event) :
    (stretches limit language events).flatMap Stretch.taken = events :=
  flatMap_taken_stretchesFrom limit language [] events

/-- The run ends in the last stretch, and an event ends every other one. -/
theorem exists_last_stretchesFrom (limit : Int) (language : String) (taken events : List Event) :
    ∃ front last, stretchesFrom limit language taken events = front ++ [last] ∧
      last.ending = none ∧ ∀ stretch ∈ front, ∃ event, stretch.ending = some event := by
  induction events generalizing language taken with
  | nil => exact ⟨[], ⟨language, taken, none⟩, rfl, rfl, by simp⟩
  | cons event rest induction =>
      unfold stretchesFrom
      split
      · exact induction language (taken ++ [event])
      · rename_i next ends
        obtain ⟨front, last, rest_eq, last_ending, front_ending⟩ := induction next []
        refine ⟨⟨language, taken, some event⟩ :: front, last, by rw [rest_eq]; rfl, last_ending, ?_⟩
        intro stretch mem
        rcases List.mem_cons.1 mem with rfl | mem
        · exact ⟨event, rfl⟩
        · exact front_ending stretch mem

/-- An event that ends a chunk adds nothing to it. -/
theorem piece?_of_successor? {limit : Int} {draft : Draft} {event : Event} {language : String}
    (ends : successor? limit draft event = some language) : event.piece? = none := by
  cases event with
  | piece piece => simp [successor?] at ends
  | paragraphBreak | language | cut => rfl

/-- The pieces of a run are those of its stretches. -/
theorem flatMap_pieces_stretches (limit : Int) (language : String) (events : List Event) :
    ((stretches limit language events).flatMap fun stretch => Event.pieces stretch.events) =
      Event.pieces events := by
  have taken_pieces : ∀ stretch ∈ stretches limit language events,
      Event.pieces stretch.taken = Event.pieces stretch.events := by
    intro stretch mem
    cases ending : stretch.ending with
    | none => simp [Stretch.taken, ending]
    | some event =>
        obtain ⟨next, ends⟩ := exists_successor_of_ending mem ending
        simp [Stretch.taken, ending, piece?_of_successor? ends]
  calc
    _ = (stretches limit language events).flatMap fun stretch => Event.pieces stretch.taken :=
      (List.flatMap_congr taken_pieces).symm
    _ = Event.pieces ((stretches limit language events).flatMap Stretch.taken) := by
      simp [Event.pieces, List.filterMap_flatMap]
    _ = Event.pieces events := by rw [flatMap_taken_stretches]

/-- When a stretch ends, its draft is that of the collector. -/
theorem draft_run_of_stretchesFrom {limit : Int} {language : String} {taken events : List Event}
    {front back : List Stretch} {stretch : Stretch}
    (split : stretchesFrom limit language taken events = front ++ stretch :: back)
    (interest : Option FileId) (chunks : List Chunk) :
    ∃ seen, front.flatMap Stretch.taken ++ stretch.events = taken ++ seen ∧
      ((making limit interest language taken chunks).run seen).draft = stretch.draft := by
  induction events generalizing language taken front chunks with
  | nil =>
      cases front with
      | nil =>
          obtain ⟨rfl, -⟩ : ⟨language, taken, none⟩ = stretch ∧ [] = back := by
            simpa [stretchesFrom] using split
          exact ⟨[], by simp, rfl⟩
      | cons first front => simp [stretchesFrom] at split
  | cons event rest induction =>
      unfold stretchesFrom at split
      split at split
      · rename_i goes_on
        obtain ⟨seen, seen_eq, draft_eq⟩ := induction split chunks
        refine ⟨event :: seen, by simpa using seen_eq, ?_⟩
        rw [run, List.foldl_cons, ← run, step_making_of_joins goes_on, draft_eq]
      · rename_i next ends
        cases front with
        | nil =>
            obtain ⟨rfl, -⟩ := List.cons.inj split
            exact ⟨[], by simp, rfl⟩
        | cons first front =>
            obtain ⟨rfl, rest_split⟩ := List.cons.inj split
            obtain ⟨seen, seen_eq, draft_eq⟩ := induction rest_split
              ((making limit interest language taken chunks).cutTo next).chunks
            refine ⟨event :: seen, by simpa [Stretch.taken] using seen_eq, ?_⟩
            rw [run, List.foldl_cons, ← run, step_making_of_ends ends, draft_eq]

/-- An event that ends the chunk of the collector ends a stretch. -/
theorem exists_stretch_of_successor? {limit : Int} {interest : Option FileId} {language : String}
    {taken before : List Event} {event : Event} {chunks : List Chunk} {next : String}
    (ends : successor? limit ((making limit interest language taken chunks).run before).draft
      event = some next) (after : List Event) :
    ∃ front stretch back,
      stretchesFrom limit language taken (before ++ event :: after) = front ++ stretch :: back ∧
        front.flatMap Stretch.taken ++ stretch.events = taken ++ before ∧
        stretch.ending = some event := by
  induction before generalizing language taken chunks with
  | nil =>
      have ends_here : successor? limit ⟨language, [], Event.pieces taken⟩ event = some next :=
        ends
      refine ⟨[], ⟨language, taken, some event⟩, stretchesFrom limit next [] after, ?_, by simp,
        rfl⟩
      rw [List.nil_append, stretchesFrom]
      simp only [ends_here, List.nil_append]
  | cons first rest induction =>
      rw [run, List.foldl_cons, ← run] at ends
      rw [List.cons_append, stretchesFrom]
      split
      · rename_i goes_on
        rw [step_making_of_joins goes_on] at ends
        obtain ⟨front, stretch, back, split, seen_eq, ending⟩ := induction ends
        exact ⟨front, stretch, back, split, by simpa using seen_eq, ending⟩
      · rename_i following first_ends
        rw [step_making_of_ends first_ends] at ends
        obtain ⟨front, stretch, back, split, seen_eq, ending⟩ := induction ends
        refine ⟨⟨language, taken, some first⟩ :: front, stretch, back, ?_, ?_, ending⟩
        · rw [split, List.cons_append]
        · simpa [Stretch.taken] using seen_eq

/-- A run keeps the chunks of the stretches that its collector keeps. -/
theorem chunks_run_stretchesFrom (limit : Int) (interest : Option FileId) (language : String)
    (taken events : List Event) (chunks : List Chunk) :
    ((making limit interest language taken chunks).run events).cut.chunks =
      chunks ++
        ((stretchesFrom limit language taken events).filter fun stretch =>
          keeps interest stretch.draft).map Stretch.chunk := by
  induction events generalizing language taken chunks with
  | nil =>
      simp only [run, List.foldl_nil, cut, cutTo, stretchesFrom, making]
      by_cases kept : keeps interest ⟨language, [], Event.pieces taken⟩ = true <;>
        simp [kept, Stretch.chunk, Stretch.draft]
  | cons event rest induction =>
      rw [run, List.foldl_cons, ← run]
      unfold stretchesFrom
      split
      · rename_i goes_on
        rw [step_making_of_joins goes_on, induction]
      · rename_i next ends
        rw [step_making_of_ends ends, induction]
        simp only [cutTo, making]
        by_cases kept : keeps interest ⟨language, [], Event.pieces taken⟩ = true <;>
          simp [kept, Stretch.chunk, Stretch.draft]

/-- The collected chunks are those of the stretches that the collector keeps. -/
theorem collect_eq_stretches (limit : Int) (interest : Option FileId) (language : String)
    (events : List Event) :
    collect limit interest language events =
      ((stretches limit language events).filter fun stretch =>
        keeps interest stretch.draft).map Stretch.chunk :=
  chunks_run_stretchesFrom limit interest language [] events []

/-- The characters of all stretches, each in the language of its chunk, are those that the events
emit. -/
theorem flatMap_marks_stretchesFrom (limit : Int) (language : String) (taken events : List Event) :
    ((stretchesFrom limit language taken events).flatMap fun stretch =>
        stretch.marks.map (·, stretch.language)) =
      ((Event.pieces taken).flatMap Piece.marks).map (·, language) ++
        Event.emissions language events := by
  induction events generalizing language taken with
  | nil => simp [stretchesFrom, Stretch.marks, Event.emissions]
  | cons event rest induction =>
      unfold stretchesFrom
      split
      · rename_i goes_on
        rw [induction]
        cases event with
        | piece piece => simp [Event.emissions, Event.piece?]
        | paragraphBreak => simp [Event.emissions, Event.piece?]
        | language next =>
            have same : next = language := by simpa [successor?] using goes_on
            simp [Event.emissions, Event.piece?, same]
        | cut => simp [successor?] at goes_on
      · rename_i next ends
        rw [List.flatMap_cons, induction]
        cases event with
        | piece piece => simp [successor?] at ends
        | paragraphBreak =>
            have same : language = next := by
              simp only [successor?, Option.ite_none_right_eq_some, Option.some.injEq] at ends
              exact ends.2
            simp [Event.emissions, Stretch.marks, same]
        | language other =>
            have same : other = next := by
              simp only [successor?, Option.ite_none_left_eq_some, Option.some.injEq] at ends
              exact ends.2
            simp [Event.emissions, Stretch.marks, same]
        | cut =>
            have same : language = next := by simpa [successor?] using ends
            simp [Event.emissions, Stretch.marks, same]

theorem flatMap_marks_stretches (limit : Int) (language : String) (events : List Event) :
    ((stretches limit language events).flatMap fun stretch =>
        stretch.marks.map (·, stretch.language)) =
      Event.emissions language events := by
  simpa [stretches] using flatMap_marks_stretchesFrom limit language [] events

end Collector
end ProseCheck

/-!
## Changed pieces

Where chunks end hangs on the lengths of what their pieces emit.  If all pieces of a run are changed
and each still emits as many characters, the stretches are the same, with their pieces changed.
-/

namespace ProseCheck
namespace Event

variable (change : Piece → Piece)

/-- The event with a change of its piece. -/
def changed : Event → Event
  | .piece added => .piece (change added)
  | .paragraphBreak => .paragraphBreak
  | .language next => .language next
  | .cut => .cut

@[simp]
theorem piece?_changed (event : Event) :
    (event.changed change).piece? = event.piece?.map change := by
  cases event <;> rfl

@[simp]
theorem pieces_map_changed (events : List Event) :
    pieces (events.map (changed change)) = (pieces events).map change := by
  induction events with
  | nil => rfl
  | cons event rest induction =>
      rw [List.map_cons, pieces_cons, pieces_cons, piece?_changed, induction, List.map_append]
      cases event.piece? <;> rfl

end Event

/-- The stretch with a change of all its pieces. -/
def Stretch.changed (change : Piece → Piece) (stretch : Stretch) : Stretch :=
  ⟨stretch.language, stretch.events.map (Event.changed change),
    stretch.ending.map (Event.changed change)⟩

namespace Collector

variable {change : Piece → Piece}
  (same_length : ∀ piece, (change piece).emitted.length = piece.emitted.length)
include same_length

theorem length_stream_map (pieces : List Piece) :
    (Piece.stream (pieces.map change)).length = (Piece.stream pieces).length := by
  simp [Piece.stream, List.length_flatMap, Function.comp_def, same_length]

theorem successor?_changed (limit : Int) (language : String) (taken : List Event)
    (event : Event) :
    successor? limit ⟨language, [], Event.pieces (taken.map (Event.changed change))⟩
        (event.changed change) =
      successor? limit ⟨language, [], Event.pieces taken⟩ event := by
  have size_eq : (⟨language, [], Event.pieces (taken.map (Event.changed change))⟩ : Draft).size =
      (⟨language, [], Event.pieces taken⟩ : Draft).size := by
    simp [Draft.size, Draft.pieces, length_stream_map same_length]
  cases event with
  | piece added => rfl
  | paragraphBreak => simp only [Event.changed, successor?, size_eq]
  | language next => rfl
  | cut => rfl

/-- Such a change does not decide where chunks end. -/
theorem stretchesFrom_map_changed (limit : Int) (language : String) (taken events : List Event) :
    stretchesFrom limit language (taken.map (Event.changed change))
        (events.map (Event.changed change)) =
      (stretchesFrom limit language taken events).map (Stretch.changed change) := by
  induction events generalizing language taken with
  | nil => rfl
  | cons event rest induction =>
      rw [List.map_cons, stretchesFrom, stretchesFrom, successor?_changed same_length]
      cases successor? limit ⟨language, [], Event.pieces taken⟩ event with
      | none =>
          have later := induction language (taken ++ [event])
          rw [List.map_append] at later
          exact later
      | some next => exact congrArg _ (induction next [])

theorem stretches_map_changed (limit : Int) (language : String) (events : List Event) :
    stretches limit language (events.map (Event.changed change)) =
      (stretches limit language events).map (Stretch.changed change) :=
  stretchesFrom_map_changed same_length limit language [] events

end Collector
end ProseCheck
