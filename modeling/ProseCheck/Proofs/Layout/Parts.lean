import Mathlib.Data.List.Forall2
import ProseCheck.Proofs.Layout.Runs

/-!
# Runs of a chunk

The chunks of laid-out pages part their runs into stretches of neighbours: each run stands in one
chunk with all that it shows, and the chunk is in the language of the run.  The collector and the
conversion keep that language apart from each other; they agree after every event.
-/

namespace ProseCheck
namespace Layout

/-- No piece of a run is a separator. -/
theorem filter_runPieces (run : TextRun) :
    (runPieces run).filter (fun piece => !piece.isSeparator) = runPieces run :=
  List.filter_eq_self.2 fun piece mem => by simp [isSeparator_of_mem_runPieces mem]

/-- Events of a chunk that show some runs of its language, and but for separators nothing else. -/
structure Shows (options : Options) (language : String) (events : List Event)
    (part : List TextRun) : Prop where
  pieces_eq : (Event.pieces events).filter (fun piece => !piece.isSeparator) =
    part.flatMap runPieces
  language_eq : ∀ run ∈ part, codeOf options run = language

namespace Shows

variable {options : Options} {language : String} {taken : List Event} {part : List TextRun}

theorem nil (options : Options) (language : String) : Shows options language [] [] :=
  ⟨rfl, by simp⟩

theorem silent (shows : Shows options language taken part) {event : Event}
    (no_piece : event.piece? = none) : Shows options language (taken ++ [event]) part := by
  refine ⟨?_, shows.language_eq⟩
  rw [Event.pieces_append, Event.pieces_cons, no_piece]
  simpa using shows.pieces_eq

theorem separator (shows : Shows options language taken part) {piece : Piece}
    (separates : piece.isSeparator = true) :
    Shows options language (taken ++ [.piece piece]) part := by
  refine ⟨?_, shows.language_eq⟩
  rw [Event.pieces_append, List.filter_append, shows.pieces_eq]
  simp [Event.piece?, separates]

theorem run (shows : Shows options language taken part) {run : TextRun}
    (same : codeOf options run = language) :
    Shows options language (taken ++ (runPieces run).map .piece) (part ++ [run]) := by
  constructor
  case pieces_eq =>
    rw [Event.pieces_append, List.filter_append, shows.pieces_eq, Event.pieces_map_piece,
      filter_runPieces, List.flatMap_append, List.flatMap_singleton]
  case language_eq =>
    intro other mem
    rcases List.mem_append.1 mem with mem | mem
    · exact shows.language_eq other mem
    · rw [List.mem_singleton.1 mem, same]

/-- A piece of a chunk that is no separator is what one of its runs shows of a glyph. -/
theorem exists_glyph (shows : Shows options language taken part) {piece : Piece}
    (mem : piece ∈ Event.pieces taken) (shown_piece : piece.isSeparator = false) :
    ∃ run ∈ part, ∃ glyph ∈ shown run, glyphPiece run glyph = piece := by
  have kept : piece ∈ (Event.pieces taken).filter fun piece => !piece.isSeparator :=
    List.mem_filter.2 ⟨mem, by simp [shown_piece]⟩
  rw [shows.pieces_eq] at kept
  obtain ⟨run, run_mem, piece_mem⟩ := List.mem_flatMap.1 kept
  obtain ⟨glyph, glyph_mem, rfl⟩ := List.mem_map.1 piece_mem
  exact ⟨run, run_mem, glyph, glyph_mem, rfl⟩

end Shows

/-- Events still to come that, whatever the chunk in the making shows, show some more runs. -/
def Brings (options : Options) (limit : Int) (language : String) (events : List Event)
    (runs : List TextRun) : Prop :=
  ∀ taken part, Shows options language taken part →
    ∃ parts : List (List TextRun), parts.flatten = part ++ runs ∧
      List.Forall₂ (fun stretch part => Shows options stretch.language stretch.events part)
        (Collector.stretchesFrom limit language taken events) parts

namespace Brings

variable {options : Options} {limit : Int} {language next : String} {rest : List Event}
  {runs : List TextRun}

theorem nil (options : Options) (limit : Int) (language : String) :
    Brings options limit language [] [] := by
  intro taken part shows
  exact ⟨[part], by simp, .cons shows .nil⟩

/-- What ends a chunk ends its part of the runs. -/
theorem ends (brings : Brings options limit next rest runs) {event : Event} {taken : List Event}
    {part : List TextRun} (shows : Shows options language taken part)
    (ends : Collector.successor? limit ⟨language, [], Event.pieces taken⟩ event = some next) :
    ∃ parts : List (List TextRun), parts.flatten = part ++ runs ∧
      List.Forall₂ (fun stretch part => Shows options stretch.language stretch.events part)
        (Collector.stretchesFrom limit language taken (event :: rest)) parts := by
  obtain ⟨parts, flatten_eq, covered⟩ := brings [] [] (.nil options next)
  rw [Collector.stretchesFrom_of_ends ends]
  exact ⟨part :: parts, by rw [List.flatten_cons, flatten_eq, List.nil_append],
    .cons shows covered⟩

theorem paragraphBreak (brings : Brings options limit language rest runs) :
    Brings options limit language (.paragraphBreak :: rest) runs := by
  intro taken part shows
  cases successor : Collector.successor? limit ⟨language, [], Event.pieces taken⟩
      .paragraphBreak with
  | none =>
      rw [Collector.stretchesFrom_of_joins successor]
      exact brings _ _ (shows.silent rfl)
  | some following =>
      obtain rfl : language = following := by
        simp only [Collector.successor?, Option.ite_none_right_eq_some, Option.some.injEq]
          at successor
        exact successor.2
      exact brings.ends shows successor

theorem change (brings : Brings options limit next rest runs) (changes : next ≠ language) :
    Brings options limit language (.language next :: rest) runs := by
  intro taken part shows
  exact brings.ends shows (by simp [Collector.successor?, changes])

theorem separator (brings : Brings options limit language rest runs) {piece : Piece}
    (separates : piece.isSeparator = true) :
    Brings options limit language (.piece piece :: rest) runs := by
  intro taken part shows
  rw [Collector.stretchesFrom_of_joins rfl]
  exact brings _ _ (shows.separator separates)

/-- Pieces end no chunk. -/
theorem stretchesFrom_pieces (limit : Int) (language : String) (taken : List Event)
    (pieces : List Piece) (rest : List Event) :
    Collector.stretchesFrom limit language taken (pieces.map .piece ++ rest) =
      Collector.stretchesFrom limit language (taken ++ pieces.map .piece) rest := by
  induction pieces generalizing taken with
  | nil => simp
  | cons piece pieces induction =>
      rw [List.map_cons, List.cons_append, Collector.stretchesFrom_of_joins rfl, induction]
      simp

theorem run (brings : Brings options limit language rest runs) {run : TextRun}
    (same : codeOf options run = language) :
    Brings options limit language ((runPieces run).map .piece ++ rest) (run :: runs) := by
  intro taken part shows
  rw [stretchesFrom_pieces]
  simpa using brings _ _ (shows.run same)

end Brings

/-- What steps add brings the runs of the steps. -/
theorem AddsAll.brings {options : Options} {language : String} {steps : List Step}
    {events : List Event} (adds_all : AddsAll options language steps events) (limit : Int) :
    Brings options limit language events (runsOf steps) := by
  induction adds_all with
  | nil => exact .nil options limit _
  | cons adds _ brings =>
      cases adds with
      | pageBreak => exact brings.paragraphBreak
      | blank blank =>
          rw [runsOf_blank_cons blank]
          exact brings
      | run has_glyphs opens =>
          rw [runsOf_run_cons has_glyphs, List.append_assoc]
          have shown := brings.run rfl
          cases opens with
          | language changes => exact shown.change changes
          | joined same => exact same ▸ shown
          | gap same => exact (same ▸ shown).separator rfl
          | paragraph same => exact (same ▸ shown).paragraphBreak.separator rfl

/-- The stretches of pages part their runs. -/
theorem exists_parts (options : Options) (limit : Int) (pages : List Page) :
    ∃ parts : List (List TextRun), parts.flatten = runs pages ∧
      List.Forall₂ (fun stretch part => Shows options stretch.language stretch.events part)
        (Collector.stretches limit LanguageCode.standard (output options pages)) parts := by
  obtain ⟨parts, flatten_eq, covered⟩ :=
    (addsAll_events options .initial (steps pages)).brings limit [] [] (.nil options _)
  exact ⟨parts, by rw [flatten_eq, List.nil_append, runs], covered⟩

/-- Each stretch of pages shows some of their runs. -/
theorem exists_shows_of_mem_stretches {options : Options} {limit : Int} {pages : List Page}
    {stretch : Stretch}
    (mem : stretch ∈ Collector.stretches limit LanguageCode.standard (output options pages)) :
    ∃ part, Shows options stretch.language stretch.events part ∧
      ∀ run ∈ part, run ∈ runs pages := by
  obtain ⟨parts, flatten_eq, covered⟩ := exists_parts options limit pages
  obtain ⟨index, inside, rfl⟩ := List.getElem_of_mem mem
  have index_lt : index < parts.length := covered.length_eq ▸ inside
  refine ⟨parts[index], (List.forall₂_iff_get.1 covered).2 index inside index_lt,
    fun run run_mem => ?_⟩
  rw [← flatten_eq]
  exact List.mem_flatten.2 ⟨_, List.getElem_mem index_lt, run_mem⟩

end Layout
end ProseCheck
