import ProseCheck.Proofs.Chunk.Ending
import ProseCheck.Proofs.Markup.ProseNodes

/-!
# Boundaries of chunks

A paragraph break ends the chunk in the making exactly when the chunk exceeds the size limit, so a
finished chunk exceeds it by no more than what came since the last break inside it.  In the
conversion of a tree nothing else ends a chunk before the last one, and each such break stands
right behind the separator of a break node in prose position.
-/

namespace ProseCheck
namespace Collector

variable {limit : Int} {language : String}

/-- A paragraph break ends the chunk in the making if and only if the chunk exceeds the limit. -/
theorem limit_lt_iff_break_ends (interest : Option FileId) (before after : List Event) :
    limit < ((empty limit interest language).run before).draft.size ↔
      ∃ front stretch back,
        stretches limit language (before ++ .paragraphBreak :: after) = front ++ stretch :: back ∧
          front.flatMap Stretch.taken ++ stretch.events = before ∧
          stretch.draft = ((empty limit interest language).run before).draft ∧
          stretch.ending = some .paragraphBreak := by
  have empty_eq : empty limit interest language = making limit interest language [] [] := rfl
  rw [empty_eq]
  constructor
  · intro exceeds
    have ends : ∃ next, successor? limit
        ((making limit interest language [] []).run before).draft .paragraphBreak = some next :=
      ⟨_, if_pos exceeds⟩
    obtain ⟨next, ends⟩ := ends
    obtain ⟨front, stretch, back, split, seen_eq, ending⟩ := exists_stretch_of_successor? ends after
    obtain ⟨seen, before_eq, draft_eq⟩ := draft_run_of_stretchesFrom split interest []
    obtain rfl : before = seen := by simpa [seen_eq] using before_eq
    exact ⟨front, stretch, back, split, by simpa using seen_eq, draft_eq.symm, ending⟩
  · rintro ⟨front, stretch, back, split, -, draft_eq, ending⟩
    have mem : stretch ∈ stretches limit language (before ++ .paragraphBreak :: after) := by
      simp [split]
    obtain ⟨next, ends⟩ := exists_successor_of_ending mem ending
    simp only [successor?, Option.ite_none_right_eq_some] at ends
    rw [← draft_eq]
    exact ends.1

/-- At a paragraph break that did not end its chunk, the chunk was within the limit. -/
theorem size_le_of_joins {taken before after : List Event} (joins : Joins limit language taken)
    (split : taken = before ++ .paragraphBreak :: after) : (Event.size before : Int) ≤ limit := by
  have goes_on := joins before .paragraphBreak after split
  simp only [successor?, ite_eq_right_iff, reduceCtorEq, imp_false] at goes_on
  exact Int.not_lt.1 goes_on

/-- A chunk exceeds the limit by no more than what came since the last paragraph break in it. -/
theorem size_le_of_mem_stretches {events before after : List Event} {stretch : Stretch}
    (mem : stretch ∈ stretches limit language events)
    (split : stretch.events = before ++ .paragraphBreak :: after) :
    (Event.size before : Int) ≤ limit ∧ (stretch.size : Int) ≤ limit + Event.size after := by
  have within := size_le_of_joins (joins_of_mem_stretches mem) split
  refine ⟨within, ?_⟩
  rw [Stretch.size, split, Event.size_append, Event.size_paragraphBreak_cons]
  omega

end Collector

namespace Markup

/-- What a chunk reads as where a break node stands at its end. -/
def breakReadings (node : Node) : List (Char × Except LookupError (Option Origin)) :=
  paragraph.map fun char => (char, .ok (some ⟨node.span, 0, Utf8.size node.text⟩))

/-- A chunk whose last event but one is the separator of a break node ends with it. -/
theorem readings_of_events {stretch : Stretch} {front : List Event} {node : Node}
    (events_eq : stretch.events = front ++ [replace node.text paragraph node.span]) :
    breakReadings node <:+ stretch.chunk.map.readings := by
  rw [stretch.readings_chunk, Stretch.marks, events_eq]
  refine ⟨((Event.pieces front).flatMap Piece.marks).map fun mark => (mark.char, .ok mark.origin),
    ?_⟩
  simp [replace, Event.piece?, Piece.marks, Mark.uniform, breakReadings]

variable {limit : Int} {language : String}

/-- In a walk, only the break of a break node ends a chunk before the last one. -/
theorem Walk.events_of_next {agenda : List (Role × Node)} {events : List Event}
    (walk : Walk agenda events) {front back : List Stretch} {stretch next : Stretch}
    (split : Collector.stretches limit language events = front ++ stretch :: next :: back) :
    ∃ before, ∃ node ∈ agenda.flatMap fun visit => visit.1.proseNodes visit.2,
      node.kind = .parbreak ∧ stretch.ending = some .paragraphBreak ∧
        stretch.events = before ++ [replace node.text paragraph node.span] := by
  obtain ⟨event, ending, ends, events_eq⟩ := Collector.exists_ending_of_next split
  obtain rfl : event = .paragraphBreak := by
    rcases walk.event_cases event (by simp [events_eq]) with ⟨piece, rfl⟩ | is_break
    · exact absurd (Collector.piece?_of_successor? ends) (by simp [Event.piece?])
    · exact is_break
  obtain ⟨before, node, mem, is_break, before_eq⟩ := walk.breaksFollow _ _ events_eq
  obtain ⟨rest, rest_eq⟩ := Collector.exists_events_of_next split before_eq
  exact ⟨rest, node, mem, is_break, ending, rest_eq⟩

variable {rules : Rules} {tree : Node}

/-- Every stretch of a conversion but the last one ends with the whole output of a break node. -/
theorem taken_of_next {front back : List Stretch} {stretch next : Stretch}
    (split : Collector.stretches limit language (events rules .prose tree) =
      front ++ stretch :: next :: back) :
    ∃ before, ∃ node ∈ proseNodes .prose tree, node.kind = .parbreak ∧
      stretch.taken = before ++ leafEvents .parbreak node.text node.span ∧
        breakReadings node <:+ stretch.chunk.map.readings := by
  have walk := walk_events rules .prose tree .done
  rw [List.append_nil] at walk
  obtain ⟨before, node, mem, is_break, ending, events_eq⟩ := walk.events_of_next split
  refine ⟨before, node, by simpa [Role.proseNodes] using mem, is_break, ?_,
    readings_of_events events_eq⟩
  simp [Stretch.taken, ending, events_eq, leafEvents]

/-- Every chunk of a conversion but the last one ends with the separator of a break node. -/
theorem readings_of_next {interest : Option FileId} {front back : List Chunk} {chunk next : Chunk}
    (split : convert rules limit interest language tree = front ++ chunk :: next :: back) :
    ∃ node ∈ proseNodes .prose tree, node.kind = .parbreak ∧
      breakReadings node <:+ chunk.map.readings := by
  rw [convert, Collector.collect_eq_stretches] at split
  obtain ⟨_, kept, kept_eq, -, kept_split⟩ := List.map_eq_append_iff.1 split
  obtain ⟨stretch, later, rfl, rfl, later_split⟩ := List.map_eq_cons_iff.1 kept_split
  obtain ⟨following, _, rfl, rfl, -⟩ := List.map_eq_cons_iff.1 later_split
  obtain ⟨_, rest, stretches_eq, -, rest_filter⟩ := List.filter_eq_append_iff.1 kept_eq
  obtain ⟨skipped, rest_after, rfl, -, -, after_filter⟩ := List.filter_eq_cons_iff.1 rest_filter
  obtain ⟨between, last, rfl, -⟩ := List.filter_eq_cons_iff.1 after_filter
  rw [← List.append_assoc] at stretches_eq
  obtain ⟨first, others, others_eq⟩ : ∃ first others, between ++ following :: last =
      first :: others := List.exists_cons_of_ne_nil (by simp)
  rw [others_eq] at stretches_eq
  obtain ⟨-, node, mem, is_break, -, readings⟩ := taken_of_next stretches_eq
  exact ⟨node, mem, is_break, readings⟩

/-- The size law of chunks.  Every event of a run stands in the stretch of one finished chunk, and
the collected chunks are the finished ones that are kept.  A paragraph break ends the chunk in the
making if and only if it holds more characters than the limit; what a finished chunk held at a
paragraph break inside it is within the limit, so it exceeds the limit by no more than what came
since.  In a conversion, every stretch but the last one ends with the whole output of a break node
in prose position, and so does every chunk but the last one. -/
theorem chunk_size_law (limit : Int) (language : String) :
    (∀ interest events,
      (Collector.stretches limit language events).flatMap Stretch.taken = events ∧
        Collector.collect limit interest language events =
          ((Collector.stretches limit language events).filter fun stretch =>
            Collector.keeps interest stretch.draft).map Stretch.chunk) ∧
    (∀ interest before after,
      limit < ((Collector.empty limit interest language).run before).draft.size ↔
        ∃ front stretch back,
          Collector.stretches limit language (before ++ .paragraphBreak :: after) =
              front ++ stretch :: back ∧
            front.flatMap Stretch.taken ++ stretch.events = before ∧
            stretch.draft = ((Collector.empty limit interest language).run before).draft ∧
            stretch.ending = some .paragraphBreak) ∧
    (∀ events, ∀ stretch ∈ Collector.stretches limit language events, ∀ before after,
      stretch.events = before ++ .paragraphBreak :: after →
        (Event.size before : Int) ≤ limit ∧
          (stretch.chunk.stream.length : Int) ≤ limit + Event.size after) ∧
    ∀ rules tree,
      (∀ front stretch next back,
        Collector.stretches limit language (events rules .prose tree) =
            front ++ stretch :: next :: back →
          ∃ before, ∃ node ∈ proseNodes .prose tree, node.kind = .parbreak ∧
            stretch.taken = before ++ leafEvents .parbreak node.text node.span ∧
              breakReadings node <:+ stretch.chunk.map.readings) ∧
        ∀ interest front chunk next back,
          convert rules limit interest language tree = front ++ chunk :: next :: back →
            ∃ node ∈ proseNodes .prose tree, node.kind = .parbreak ∧
              breakReadings node <:+ chunk.map.readings := by
  refine ⟨fun interest events => ?_, fun interest before after => ?_,
    fun events stretch mem before after split => ?_, fun rules tree => ⟨?_, ?_⟩⟩
  · exact ⟨Collector.flatMap_taken_stretches limit language events,
      Collector.collect_eq_stretches limit interest language events⟩
  · exact Collector.limit_lt_iff_break_ends interest before after
  · exact Collector.size_le_of_mem_stretches mem split
  · exact fun front stretch next back split => taken_of_next split
  · exact fun interest front chunk next back split => readings_of_next split

/-- A paragraph, an emphasised word and an equation behind a break. -/
def twoParagraphs : Node :=
  .inner .markup
    [.leaf .text ['O', 'n', 'e'], .leaf .parbreak ['\n', '\n'],
      .inner .strong [.leaf .text ['d', 'é', 'j', 'à']], .leaf .space [' '],
      .inner .equation [.leaf .math ['$', 'x', '$']]]

theorem chunk_size_law_twoParagraphs :
    ∃ front chunk next back,
      convert ⟨[], []⟩ 4 (some "main") "en-US" (twoParagraphs.numbered "main" 0) =
          front ++ chunk :: next :: back ∧
        ∃ node ∈ proseNodes .prose (twoParagraphs.numbered "main" 0), node.kind = .parbreak ∧
          breakReadings node <:+ chunk.map.readings := by
  have two_chunks :
      (convert ⟨[], []⟩ 4 (some "main") "en-US" (twoParagraphs.numbered "main" 0)).length = 2 := by
    decide
  obtain ⟨chunk, next, split⟩ := List.length_eq_two.1 two_chunks
  obtain ⟨-, -, -, converted⟩ := chunk_size_law 4 "en-US"
  exact ⟨[], chunk, next, [], split,
    (converted ⟨[], []⟩ (twoParagraphs.numbered "main" 0)).2 (some "main") [] chunk next [] split⟩

end Markup
end ProseCheck
