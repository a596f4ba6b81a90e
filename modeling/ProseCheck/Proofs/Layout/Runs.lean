import ProseCheck.Layout.Conversion
import ProseCheck.Proofs.Chunk.Separator

/-!
# Runs of laid-out pages

Converting pages is a walk over their runs.  What one step of it adds is said once: nothing, the
break of a page, or the pieces of a run behind whatever separates them from the run before.  Every
other fact about the conversion of pages is by induction on what the steps add.
-/

namespace ProseCheck
namespace Layout

/-- The run of a step. -/
def Step.run? : Step → Option TextRun
  | .run item _ _ => some item
  | .pageBreak => none

/-- Runs of steps that have glyphs. -/
def runsOf (steps : List Step) : List TextRun :=
  (steps.filterMap Step.run?).filter fun run => !run.glyphs.isEmpty

theorem runsOf_blank_cons {run : TextRun} (blank : run.glyphs = []) (x y : Float)
    (rest : List Step) : runsOf (.run run x y :: rest) = runsOf rest := by
  simp [runsOf, Step.run?, blank]

theorem runsOf_run_cons {run : TextRun} (has_glyphs : run.glyphs ≠ []) (x y : Float)
    (rest : List Step) : runsOf (.run run x y :: rest) = run :: runsOf rest := by
  simp [runsOf, Step.run?, has_glyphs]

/-- Runs of pages that have glyphs, in the order of a visit. -/
def runs (pages : List Page) : List TextRun := runsOf (steps pages)

/-- Language code of a run. -/
def codeOf (options : Options) (run : TextRun) : String :=
  LanguageCode.resolve options.languages run.lang run.region

/-- What a glyph shows of its run. -/
def glyphPiece (run : TextRun) (glyph : Glyph) : Piece :=
  .plain (cluster (Utf8.encode run.text) glyph) (attached? glyph) glyph.offset

/-- What a run shows. -/
def runPieces (run : TextRun) : List Piece := (shown run).map (glyphPiece run)

theorem map_glyphEvent (run : TextRun) :
    (shown run).map (glyphEvent (Utf8.encode run.text)) = (runPieces run).map .piece := by
  rw [runPieces, List.map_map]
  rfl

/-- The piece for a gap between runs on a line. -/
def gap : Piece := .encoded [] [' '] none

/-- The piece between two paragraphs. -/
def paragraph : Piece := .encoded [] ['\n', '\n'] none

/-- State before the first run. -/
def State.initial : State := ⟨LanguageCode.standard, none⟩

/-- Events of pages. -/
def output (options : Options) (pages : List Page) : List Event :=
  events options .initial (steps pages)

theorem convert_eq_collect (options : Options) (limit : Int) (interest : Option FileId)
    (pages : List Page) :
    convert options limit interest pages =
      Collector.collect limit interest LanguageCode.standard (output options pages) := rfl

/-- Shown glyphs are glyphs of the run. -/
theorem sublist_shownFrom (last : Option (Int × Int)) (glyphs : List Glyph) :
    (shownFrom last glyphs).Sublist glyphs := by
  induction glyphs generalizing last with
  | nil => exact .slnil
  | cons glyph rest induction =>
      unfold shownFrom
      split
      · exact (induction last).cons glyph
      · exact (induction _).cons_cons glyph

theorem mem_glyphs_of_mem_shown {run : TextRun} {glyph : Glyph} (mem : glyph ∈ shown run) :
    glyph ∈ run.glyphs :=
  (sublist_shownFrom none run.glyphs).mem mem

/-- What a glyph shows is no separator. -/
theorem isSeparator_of_mem_runPieces {run : TextRun} {piece : Piece} (mem : piece ∈ runPieces run) :
    piece.isSeparator = false := by
  obtain ⟨glyph, -, rfl⟩ := List.mem_map.1 mem
  rfl

section Steps

/-- State after a step. -/
def after (options : Options) (state : State) : Step → State
  | .pageBreak =>
    { state with cursor := state.cursor.map fun cursor => { cursor with y := none } }
  | .run run x y => (runEvents options state run x y).1

/-- Events of a step. -/
def stepEvents (options : Options) (state : State) : Step → List Event
  | .pageBreak => [.paragraphBreak]
  | .run run x y => (runEvents options state run x y).2

theorem events_cons (options : Options) (state : State) (step : Step) (rest : List Step) :
    events options state (step :: rest) =
      stepEvents options state step ++ events options (after options state step) rest := by
  cases step <;> rfl

/-- What can stand before the pieces of a run, given the language of the chunk. -/
inductive Opening (options : Options) (language : String) (run : TextRun) : List Event → Prop where
  /-- Another language begins a chunk. -/
  | language (changes : codeOf options run ≠ language) :
      Opening options language run [.language (codeOf options run)]
  /-- The run goes on where the one before it ended. -/
  | joined (same : codeOf options run = language) : Opening options language run []
  /-- There is a gap on the line. -/
  | gap (same : codeOf options run = language) : Opening options language run [.piece gap]
  /-- A line begins a paragraph. -/
  | paragraph (same : codeOf options run = language) :
      Opening options language run [.piece paragraph, .paragraphBreak]

/-- What a step can add to a chunk, and the language of the chunk after it. -/
inductive Adds (options : Options) (language : String) : Step → List Event → String → Prop where
  | pageBreak : Adds options language .pageBreak [.paragraphBreak] language
  | blank {run : TextRun} {x y : Float} (blank : run.glyphs = []) :
      Adds options language (.run run x y) [] language
  | run {run : TextRun} {x y : Float} {opening : List Event} (has_glyphs : run.glyphs ≠ [])
      (opens : Opening options language run opening) :
      Adds options language (.run run x y) (opening ++ (runPieces run).map .piece)
        (codeOf options run)

theorem opening_separation {options : Options} {language : String} {run : TextRun}
    (same : codeOf options run = language) (cursor : Cursor) (first : Glyph) (x y : Float) :
    Opening options language run (separation options cursor first x y) := by
  unfold separation
  split
  · split
    · exact .joined same
    · exact .gap same
  · split
    · exact .joined same
    · exact .paragraph same

/-- Everything that a step does to the chunk. -/
theorem adds_step (options : Options) (state : State) (step : Step) :
    Adds options state.language step (stepEvents options state step)
      (after options state step).language := by
  cases step with
  | pageBreak => exact .pageBreak
  | run run x y =>
      rw [stepEvents, after, runEvents]
      split
      · rename_i blank
        exact .blank blank
      · rename_i first rest glyphs_eq
        have has_glyphs : run.glyphs ≠ [] := by simp [glyphs_eq]
        simp only [map_glyphEvent]
        refine .run has_glyphs ?_
        by_cases changes : codeOf options run ≠ state.language
        · rw [← codeOf, if_pos changes, if_pos changes]
          exact .language changes
        · rw [← codeOf, if_neg changes, if_neg changes, List.nil_append]
          have same : codeOf options run = state.language := Decidable.not_not.1 changes
          split
          · exact opening_separation same _ first x y
          · exact .joined same

/-- What steps can add to the chunks, one after the other. -/
inductive AddsAll (options : Options) : String → List Step → List Event → Prop where
  | nil {language : String} : AddsAll options language [] []
  | cons {language next : String} {step : Step} {added events : List Event} {rest : List Step}
      (adds : Adds options language step added next) (later : AddsAll options next rest events) :
      AddsAll options language (step :: rest) (added ++ events)

/-- Everything that a walk over steps does to the chunks. -/
theorem addsAll_events (options : Options) (state : State) (steps : List Step) :
    AddsAll options state.language steps (events options state steps) := by
  induction steps generalizing state with
  | nil => exact .nil
  | cons step rest induction =>
      rw [events_cons]
      exact .cons (adds_step options state step) (induction _)

end Steps
end Layout
end ProseCheck
