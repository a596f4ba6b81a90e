import ProseCheck.Proofs.Chunk.Ending
import ProseCheck.Proofs.Layout.Parts
import ProseCheck.Proofs.Layout.Visited

/-!
# Boundaries of laid-out chunks

A chunk of laid-out pages ends where a page begins, behind the separator of two paragraphs, or
before a run in another language.  At each of these places all runs so far have shown all their
glyphs and no later one has shown any, so no boundary stands between glyphs of one run.  What the
chunks show tells the runs up to such a place, since every run shows something.
-/

namespace ProseCheck
namespace Layout

mutual

theorem pageBreak_notMem_frameSteps (x y : Float) :
    ∀ frame : Frame, Step.pageBreak ∉ frameSteps x y frame
  | ⟨_, _, items⟩ => by
    rw [frameSteps]
    exact pageBreak_notMem_itemsSteps x y items

theorem pageBreak_notMem_itemsSteps (x y : Float) :
    ∀ items : List FrameItem, Step.pageBreak ∉ itemsSteps x y items
  | [] => by simp [itemsSteps]
  | item :: rest => by
    rw [itemsSteps, List.mem_append, not_or]
    exact ⟨pageBreak_notMem_itemSteps x y item, pageBreak_notMem_itemsSteps x y rest⟩

theorem pageBreak_notMem_itemSteps (x y : Float) :
    ∀ item : FrameItem, Step.pageBreak ∉ itemSteps x y item
  | ⟨dx, dy, kind, run, some frame⟩ => by
    rw [itemSteps]
    split
    · exact pageBreak_notMem_frameSteps _ _ frame
    · split
      · cases run <;> simp
      · simp
  | ⟨dx, dy, kind, some run, none⟩ => by
    rw [itemSteps]
    split <;> simp
  | ⟨dx, dy, kind, none, none⟩ => by simp [itemSteps]

end

theorem steps_cons (page : Page) {rest : List Page} (nonempty : rest ≠ []) :
    steps (page :: rest) = frameSteps 0 0 page.frame ++ .pageBreak :: steps rest := by
  obtain ⟨next, rest, rfl⟩ := List.exists_cons_of_ne_nil nonempty
  rfl

/-- A break stands between the steps of two pages and nowhere else. -/
theorem pages_of_pageBreak {pages : List Page} {earlier later : List Step}
    (split : steps pages = earlier ++ .pageBreak :: later) :
    ∃ front back, pages = front ++ back ∧ front ≠ [] ∧ back ≠ [] ∧ earlier = steps front ∧
      later = steps back := by
  induction pages generalizing earlier with
  | nil => simp [steps] at split
  | cons page rest induction =>
      have unbroken := pageBreak_notMem_frameSteps 0 0 page.frame
      by_cases last : rest = []
      · rw [last, steps] at split
        exact absurd (split ▸ List.mem_append_right _ List.mem_cons_self) unbroken
      · rw [steps_cons page last] at split
        rcases List.append_eq_append_iff.1 split with
          ⟨between, rfl, between_eq⟩ | ⟨between, frame_eq, between_eq⟩
        · cases between with
          | nil =>
              obtain ⟨-, rfl⟩ := List.cons.inj between_eq
              exact ⟨[page], rest, rfl, by simp, last, by simp [steps], rfl⟩
          | cons first between =>
              obtain ⟨rfl, rest_eq⟩ := List.cons.inj between_eq
              obtain ⟨front, back, rfl, nonempty, back_nonempty, rfl, rfl⟩ := induction rest_eq
              refine ⟨page :: front, back, rfl, by simp, back_nonempty, ?_, rfl⟩
              rw [steps_cons page nonempty]
        · cases between with
          | nil =>
              obtain ⟨-, rfl⟩ := List.cons.inj between_eq
              exact ⟨[page], rest, rfl, by simp, last, by simpa [steps] using frame_eq.symm, rfl⟩
          | cons first between =>
              obtain ⟨rfl, -⟩ := List.cons.inj between_eq
              exact absurd (by simp [frame_eq]) unbroken

/-- An event of a step that adds no piece, behind those that do. -/
inductive Interrupts (options : Options) : Step → List Event → Event → Prop where
  | pageBreak : Interrupts options .pageBreak [] .paragraphBreak
  | language {run : TextRun} {x y : Float} (has_glyphs : run.glyphs ≠ []) :
      Interrupts options (.run run x y) [] (.language (codeOf options run))
  | paragraph {run : TextRun} {x y : Float} (has_glyphs : run.glyphs ≠ []) :
      Interrupts options (.run run x y) [.piece paragraph] .paragraphBreak

/-- An event that adds no piece stands before the pieces of a run. -/
theorem exists_opening_of_append {opening before after : List Event} {pieces : List Piece}
    {event : Event} (split : opening ++ pieces.map .piece = before ++ event :: after)
    (no_piece : event.piece? = none) : ∃ rest, opening = before ++ event :: rest := by
  have apart : event ∉ pieces.map .piece := by
    intro mem
    obtain ⟨piece, -, rfl⟩ := List.mem_map.1 mem
    contradiction
  rcases List.append_eq_append_iff.1 split with
    ⟨between, -, pieces_eq⟩ | ⟨between, opening_eq, after_eq⟩
  · exact absurd (by simp [pieces_eq]) apart
  · cases between with
    | nil =>
        rw [List.nil_append] at after_eq
        exact absurd (after_eq ▸ List.mem_cons_self) apart
    | cons first between =>
        obtain ⟨rfl, -⟩ := List.cons.inj after_eq
        exact ⟨between, opening_eq⟩

theorem eq_of_singleton {before after : List Event} {only event : Event}
    (split : [only] = before ++ event :: after) : before = [] ∧ event = only := by
  rcases List.append_eq_singleton_iff.1 split.symm with ⟨rfl, same⟩ | ⟨-, empty⟩
  · exact ⟨rfl, (List.cons.inj same).1⟩
  · contradiction

/-- In what a step adds, only these events add no piece. -/
theorem Adds.interrupts {options : Options} {language next : String} {step : Step}
    {added before after : List Event} {event : Event} (adds : Adds options language step added next)
    (split : added = before ++ event :: after) (no_piece : event.piece? = none) :
    Interrupts options step before event := by
  cases adds with
  | pageBreak =>
      obtain ⟨rfl, rfl⟩ := eq_of_singleton split
      exact .pageBreak
  | blank blank => simp at split
  | run has_glyphs opens =>
      obtain ⟨rest, opening_eq⟩ := exists_opening_of_append split no_piece
      cases opens with
      | language changes =>
          obtain ⟨rfl, rfl⟩ := eq_of_singleton opening_eq
          exact .language has_glyphs
      | joined same => simp at opening_eq
      | gap same =>
          obtain ⟨-, rfl⟩ := eq_of_singleton opening_eq
          contradiction
      | paragraph same =>
          match before with
          | [] =>
              obtain ⟨rfl, -⟩ := List.cons.inj opening_eq
              contradiction
          | [first] =>
              obtain ⟨rfl, rest_eq⟩ := List.cons.inj opening_eq
              obtain ⟨rfl, -⟩ := List.cons.inj rest_eq
              exact .paragraph has_glyphs
          | _ :: _ :: _ => simp at opening_eq

/-- An event of some steps that adds no piece is of one step; before it come the events of the
steps before that one. -/
theorem exists_interrupts {options : Options} {state : State} {steps : List Step}
    {before after : List Event} {event : Event}
    (split : events options state steps = before ++ event :: after)
    (no_piece : event.piece? = none) :
    ∃ earlier step later front, steps = earlier ++ step :: later ∧
      before = events options state earlier ++ front ∧ Interrupts options step front event := by
  induction steps generalizing state before with
  | nil => simp [events] at split
  | cons step rest induction =>
      rw [events_cons] at split
      rcases List.append_eq_append_iff.1 split with
        ⟨between, rfl, rest_eq⟩ | ⟨between, added_eq, after_eq⟩
      · obtain ⟨earlier, found, later, front, rfl, rfl, interrupts⟩ := induction rest_eq
        exact ⟨step :: earlier, found, later, front, rfl, by rw [events_cons, List.append_assoc],
          interrupts⟩
      · cases between with
        | nil =>
            have rest_eq : events options (Layout.after options state step) rest =
                [] ++ event :: after := after_eq.symm
            obtain ⟨earlier, found, later, front, rfl, front_eq, interrupts⟩ := induction rest_eq
            refine ⟨step :: earlier, found, later, front, rfl, ?_, interrupts⟩
            rw [events_cons, List.append_assoc, ← front_eq, added_eq, List.append_nil,
              List.append_nil]
        | cons first between =>
            obtain ⟨rfl, -⟩ := List.cons.inj after_eq
            exact ⟨[], step, rest, before, rfl, rfl,
              (adds_step options state step).interrupts added_eq no_piece⟩

/-! ## Runs up to a boundary -/

theorem glyphs_ne_of_mem_runsOf {run : TextRun} {steps : List Step} (mem : run ∈ runsOf steps) :
    run.glyphs ≠ [] := by
  obtain ⟨-, has_glyphs⟩ := List.mem_filter.1 mem
  simpa using has_glyphs

theorem runPieces_ne_nil {run : TextRun} (has_glyphs : run.glyphs ≠ []) : runPieces run ≠ [] := by
  rw [runPieces_eq]
  simpa using kept_ne_nil has_glyphs

/-- Runs that show the same pieces at the start of some runs are the same runs. -/
theorem eq_of_flatMap_runPieces {left right front back : List TextRun}
    (split : left ++ right = front ++ back) (all_glyphs : ∀ run ∈ left ++ right, run.glyphs ≠ [])
    (same : left.flatMap runPieces = front.flatMap runPieces) : left = front ∧ right = back := by
  have none_between {between : List TextRun} (mem : ∀ run ∈ between, run ∈ left ++ right)
      (silent : between.flatMap runPieces = []) : between = [] := by
    rw [List.eq_nil_iff_forall_not_mem]
    intro run run_mem
    exact runPieces_ne_nil (all_glyphs run (mem run run_mem)) (List.flatMap_eq_nil_iff.1 silent run
      run_mem)
  rcases List.append_eq_append_iff.1 split with ⟨between, rfl, rfl⟩ | ⟨between, rfl, rfl⟩
  · obtain rfl : between = [] := by
      refine none_between (by simp +contextual) ?_
      simpa using same
    simp
  · obtain rfl : between = [] := by
      refine none_between (by simp +contextual) ?_
      simpa using same
    simp

theorem Opening.filter_pieces {options : Options} {language : String} {run : TextRun}
    {opening : List Event} (opens : Opening options language run opening) :
    (Event.pieces opening).filter (fun piece => !piece.isSeparator) = [] := by
  cases opens <;> rfl

/-- But for separators, steps add the pieces of their runs. -/
theorem AddsAll.filter_pieces {options : Options} {language : String} {steps : List Step}
    {events : List Event} (adds_all : AddsAll options language steps events) :
    (Event.pieces events).filter (fun piece => !piece.isSeparator) =
      (runsOf steps).flatMap runPieces := by
  induction adds_all with
  | nil => rfl
  | cons adds _ induction =>
      rw [Event.pieces_append, List.filter_append, induction]
      cases adds with
      | pageBreak => rfl
      | blank blank =>
          rw [runsOf_blank_cons blank]
          rfl
      | run has_glyphs opens =>
          rw [Event.pieces_append, List.filter_append, opens.filter_pieces, Event.pieces_map_piece,
            filter_runPieces, runsOf_run_cons has_glyphs, List.flatMap_cons, List.nil_append]

/-- What ends a stretch adds no piece. -/
theorem pieces_taken_of_mem {limit : Int} {language : String} {taken events : List Event}
    {stretch : Stretch} (mem : stretch ∈ Collector.stretchesFrom limit language taken events) :
    Event.pieces stretch.taken = Event.pieces stretch.events := by
  induction events generalizing language taken with
  | nil =>
      obtain rfl := List.mem_singleton.1 mem
      simp [Stretch.taken]
  | cons event rest induction =>
      unfold Collector.stretchesFrom at mem
      split at mem
      · exact induction mem
      · rename_i ends
        rcases List.mem_cons.1 mem with rfl | mem
        · simp [Stretch.taken, Collector.piece?_of_successor? ends]
        · exact induction mem

/-- But for separators, stretches add the pieces of the runs that they show. -/
theorem filter_pieces_taken {options : Options} {stretches : List Stretch}
    {parts : List (List TextRun)}
    (covered : List.Forall₂ (fun stretch part =>
      Shows options stretch.language stretch.events part) stretches parts)
    (silent : ∀ stretch ∈ stretches, Event.pieces stretch.taken = Event.pieces stretch.events) :
    (Event.pieces (stretches.flatMap Stretch.taken)).filter (fun piece => !piece.isSeparator) =
      parts.flatten.flatMap runPieces := by
  induction covered with
  | nil => rfl
  | cons shows _ induction =>
      obtain ⟨first, others⟩ := List.forall_mem_cons.1 silent
      rw [List.flatMap_cons, Event.pieces_append, List.filter_append, first, shows.pieces_eq,
        induction others, List.flatten_cons, List.flatMap_append]

theorem Interrupts.filter_pieces {options : Options} {step : Step} {added : List Event}
    {event : Event} (interrupts : Interrupts options step added event) :
    (Event.pieces added).filter (fun piece => !piece.isSeparator) = [] := by
  cases interrupts <;> rfl

/-- The stretches up to some of them show the runs of the steps taken until then. -/
theorem runs_of_front {options : Options} {limit : Int} {pages : List Page}
    {parts : List (List TextRun)} (flatten_eq : parts.flatten = runs pages)
    (covered : List.Forall₂ (fun stretch part =>
        Shows options stretch.language stretch.events part)
      (Collector.stretches limit LanguageCode.standard (output options pages)) parts)
    {front back : List Stretch} {stretch : Stretch}
    (split : Collector.stretches limit LanguageCode.standard (output options pages) =
      front ++ stretch :: back)
    {earlier later : List Step} {added : List Event} (steps_eq : steps pages = earlier ++ later)
    (before_eq : front.flatMap Stretch.taken ++ stretch.events =
      events options .initial earlier ++ added)
    (silent_added : (Event.pieces added).filter (fun piece => !piece.isSeparator) = []) :
    (parts.take (front.length + 1)).flatten = runsOf earlier ∧
      (parts.drop (front.length + 1)).flatten = runsOf later := by
  rw [List.append_cons] at split
  have silent : ∀ other ∈ front ++ [stretch],
      Event.pieces other.taken = Event.pieces other.events := by
    intro other mem
    have taken : other ∈ Collector.stretches limit LanguageCode.standard (output options pages) :=
      split ▸ List.mem_append_left back mem
    exact pieces_taken_of_mem taken
  have covered_front := List.forall₂_take (front.length + 1) covered
  rw [split, List.take_left' (by simp)] at covered_front
  have shown := filter_pieces_taken covered_front silent
  have steps_shown := (addsAll_events options .initial earlier).filter_pieces
  have same : (parts.take (front.length + 1)).flatten.flatMap runPieces =
      (runsOf earlier).flatMap runPieces := by
    rw [← shown, ← steps_shown, List.flatMap_append, List.flatMap_singleton, Event.pieces_append,
      silent stretch (by simp), ← Event.pieces_append, before_eq, Event.pieces_append,
      List.filter_append, silent_added, List.append_nil]
  have runs_eq : (parts.take (front.length + 1)).flatten ++
      (parts.drop (front.length + 1)).flatten = runsOf earlier ++ runsOf later := by
    rw [← List.flatten_append, List.take_append_drop, flatten_eq, runs, steps_eq, runsOf_append]
  refine eq_of_flatMap_runPieces runs_eq ?_ same
  rw [runs_eq, ← runsOf_append]
  exact fun run mem => glyphs_ne_of_mem_runsOf mem

/-- Why a chunk of pages ends, between the runs that are shown so far and those to come. -/
inductive Boundary (options : Options) (pages : List Page) (earlier later : List TextRun)
    (stretch next : Stretch) : Prop where
  /-- A page begins. -/
  | page {front back : List Page} (pages_eq : pages = front ++ back) (front_ne : front ≠ [])
      (back_ne : back ≠ []) (visits : Visits front earlier) (visits_later : Visits back later)
  /-- A paragraph begins; its separator is the last piece of the chunk. -/
  | paragraph (later_ne : later ≠ []) (ends : ∃ rest, stretch.events = rest ++ [.piece paragraph])
  /-- A run in another language begins. -/
  | language {run : TextRun} {rest : List TextRun} (later_eq : later = run :: rest)
      (next_language : codeOf options run = next.language)
      (changes : next.language ≠ stretch.language)

/-- Every chunk of pages that another one follows ends at a boundary. -/
theorem boundary_of_next {options : Options} {limit : Int} {pages : List Page}
    {parts : List (List TextRun)} (flatten_eq : parts.flatten = runs pages)
    (covered : List.Forall₂ (fun stretch part =>
        Shows options stretch.language stretch.events part)
      (Collector.stretches limit LanguageCode.standard (output options pages)) parts)
    {front back : List Stretch} {stretch next : Stretch}
    (split : Collector.stretches limit LanguageCode.standard (output options pages) =
      front ++ stretch :: next :: back) :
    Boundary options pages (parts.take (front.length + 1)).flatten
      (parts.drop (front.length + 1)).flatten stretch next := by
  obtain ⟨event, -, ends, output_eq⟩ := Collector.exists_ending_of_next split
  obtain ⟨earlier, step, later, added, steps_eq, before_eq, interrupts⟩ :=
    exists_interrupts output_eq (Collector.piece?_of_successor? ends)
  obtain ⟨earlier_eq, later_eq⟩ :=
    runs_of_front flatten_eq covered split steps_eq before_eq interrupts.filter_pieces
  rw [earlier_eq, later_eq]
  cases interrupts with
  | pageBreak =>
      obtain ⟨pages_front, pages_back, pages_eq, front_ne, back_ne, rfl, rfl⟩ :=
        pages_of_pageBreak steps_eq
      exact .page pages_eq front_ne back_ne (visits_runs pages_front) (visits_runs pages_back)
  | paragraph has_glyphs =>
      refine .paragraph ?_ (Collector.exists_events_of_next split before_eq)
      rw [runsOf_run_cons has_glyphs]
      exact List.cons_ne_nil _ _
  | language has_glyphs =>
      simp only [Collector.successor?, Option.ite_none_left_eq_some, Option.some.injEq] at ends
      refine .language (runsOf_run_cons has_glyphs _ _ later) ends.2 ?_
      rw [← ends.2]
      exact ends.1

end Layout
end ProseCheck
