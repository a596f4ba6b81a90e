import ProseCheck.Proofs.Layout.Boundary

/-!
# Languages of laid-out chunks

A chunk of laid-out pages is all in one language: it shows whole runs of the language that it is
checked in.  The chunks together lose nothing of the file of interest: read in order, they hold the
clusters of its shown glyphs, in the order in which the glyphs are visited.
-/

namespace ProseCheck

/-- All characters of a piece are owned, or none. -/
theorem Piece.map_owned_of_span {piece : Piece} {span : Span} (span_eq : piece.span? = some span)
    (interest : Option FileId) (language : String) :
    (piece.owned interest language).map (fun owned => (owned.char, owned.language)) =
      if interest.all fun file => span.file == some file then piece.emitted.map (·, language)
      else [] := by
  have each : ∀ mark ∈ piece.marks,
      (mark.owned? interest language).map (fun owned => (owned.char, owned.language)) =
        if interest.all fun file => span.file == some file then some (mark.char, language)
        else none := by
    intro mark mem
    have origin_span := Piece.span_of_mem_marks mem
    rw [span_eq, Option.map_eq_some_iff] at origin_span
    obtain ⟨origin, origin_eq, rfl⟩ := origin_span
    cases interest with
    | none => simp [Mark.owned?, origin_eq, Origin.isOwned]
    | some file => by_cases of_file : origin.span.file = some file <;>
        simp [Mark.owned?, origin_eq, Origin.isOwned, of_file]
  rw [Piece.owned, List.map_filterMap, List.filterMap_congr each, ← Piece.map_char_marks,
    List.map_map]
  split
  · rw [List.filterMap_eq_map']
    rfl
  · exact List.filterMap_eq_nil_iff.2 fun _ _ => rfl

namespace Layout

/-- Whether a glyph comes from a node in the file of interest or, if there is none, in any file. -/
def isOfInterest (interest : Option FileId) (glyph : Glyph) : Bool :=
  (glyph.span.bind Span.file).any fun file => interest.all fun wanted => file == wanted

/-- A glyph of interest owns the characters that it draws, and any other glyph owns none. -/
theorem map_owned_pieceOf (interest : Option FileId) (language : String) (run : TextRun)
    (glyph : Glyph) :
    ((pieceOf run glyph).owned interest language).map (fun owned => (owned.char, owned.language)) =
      if isOfInterest interest glyph then (drawn run glyph).map (·, language) else [] := by
  have sourceless (no_file : glyph.span.bind Span.file = none)
      (no_span : (pieceOf run glyph).span? = none) :
      ((pieceOf run glyph).owned interest language).map
          (fun owned => (owned.char, owned.language)) =
        if isOfInterest interest glyph then (drawn run glyph).map (·, language) else [] := by
    simp [Piece.owned_eq_nil no_span, isOfInterest, no_file]
  cases span_eq : glyph.span with
  | none => exact sourceless (by simp [span_eq]) (by simp [pieceOf, Piece.span?, span_eq])
  | some span =>
      cases file_eq : span.file with
      | none =>
          exact sourceless (by simp [span_eq, file_eq])
            (by simp [pieceOf, Piece.span?, span_eq, file_eq])
      | some file =>
          have attached : (pieceOf run glyph).span? = some span := by
            simp [pieceOf, Piece.span?, span_eq, file_eq]
          rw [Piece.map_owned_of_span attached, isOfInterest, span_eq, Option.bind_some, file_eq]
          rfl

/-- What stands before a run leads to the language of the run and owns nothing. -/
theorem owned_opening {options : Options} {language : String} {run : TextRun}
    {opening : List Event} (opens : Opening options language run opening)
    (interest : Option FileId) (rest : List Event) :
    Event.owned interest language (opening ++ rest) =
      Event.owned interest (codeOf options run) rest := by
  cases opens with
  | language changes => rfl
  | joined same => rw [same, List.nil_append]
  | gap same => rw [same, List.singleton_append, Event.owned_separator_cons rfl]
  | paragraph same =>
      rw [same, List.cons_append, Event.owned_separator_cons rfl]
      rfl

/-- Steps own what the runs of them show, each in its language. -/
theorem AddsAll.owned_eq {options : Options} {language : String} {steps : List Step}
    {events : List Event} (adds_all : AddsAll options language steps events)
    (interest : Option FileId) :
    Event.owned interest language events =
      (runsOf steps).flatMap fun run =>
        (runPieces run).flatMap (Piece.owned interest (codeOf options run)) := by
  induction adds_all with
  | nil => rfl
  | cons adds _ rest_owned =>
      cases adds with
      | pageBreak => exact rest_owned
      | blank blank =>
          rw [runsOf_blank_cons blank]
          exact rest_owned
      | run has_glyphs opens =>
          rw [runsOf_run_cons has_glyphs, List.flatMap_cons, List.append_assoc,
            owned_opening opens, Event.owned_pieces_append, rest_owned]

/-- The characters of interest in the chunks of pages are those of the kept glyphs of interest. -/
theorem map_owned_convert (options : Options) (limit : Int) (interest : Option FileId)
    (pages : List Page) :
    ((convert options limit interest pages).flatMap (Chunk.owned interest)).map
        (fun owned => (owned.char, owned.language)) =
      (runs pages).flatMap fun run =>
        (kept run).flatMap fun glyph =>
          if isOfInterest interest glyph then (drawn run glyph).map (·, codeOf options run)
          else [] := by
  have owned := (addsAll_events options .initial (steps pages)).owned_eq interest
  rw [State.initial] at owned
  rw [convert_eq_collect, Collector.flatMap_owned_collect, output, State.initial, owned,
    List.map_flatMap, runs]
  refine List.flatMap_congr fun run _ => ?_
  rw [runPieces_eq, List.flatMap_map, List.map_flatMap]
  exact List.flatMap_congr fun glyph _ => map_owned_pieceOf interest _ run glyph

/-- Events of a chunk that show the kept glyphs of some runs of its language, and but for separators
nothing else. -/
structure ShowsKept (options : Options) (language : String) (events : List Event)
    (part : List TextRun) : Prop where
  pieces_eq : (Event.pieces events).filter (fun piece => !piece.isSeparator) =
    part.flatMap fun run => (kept run).map (pieceOf run)
  language_eq : ∀ run ∈ part, codeOf options run = language

theorem Shows.kept {options : Options} {language : String} {events : List Event}
    {part : List TextRun} (shows : Shows options language events part) :
    ShowsKept options language events part where
  pieces_eq := by
    rw [shows.pieces_eq]
    exact List.flatMap_congr fun run _ => runPieces_eq run
  language_eq := shows.language_eq

/-- Chunks of pages are all in one language and complete.  They are the finished chunks that hold a
character of interest.  The finished chunks part the runs that the pages show, in the order of the
document: each shows whole runs of its own language, every glyph that is not left out, and but for
separators nothing else.  One that another one follows ends where a page begins, with all runs of
the pages before and none of the others, behind the separator of a paragraph, or before a run in
another language.  And the characters of interest in the chunks are those that the kept glyphs of
interest draw, as they are visited. -/
theorem chunks_pure_and_complete (options : Options) (limit : Int) (interest : Option FileId)
    (pages : List Page) :
    convert options limit interest pages =
        ((Collector.stretches limit LanguageCode.standard (output options pages)).filter
          fun stretch => Collector.keeps interest stretch.draft).map Stretch.chunk ∧
      ∃ (visited : List TextRun) (parts : List (List TextRun)),
        Visits pages visited ∧ parts.flatten = visited ∧
          List.Forall₂
            (fun stretch part => ShowsKept options stretch.language stretch.events part)
            (Collector.stretches limit LanguageCode.standard (output options pages)) parts ∧
          (∀ front stretch next back,
            Collector.stretches limit LanguageCode.standard (output options pages) =
                front ++ stretch :: next :: back →
              Boundary options pages (parts.take (front.length + 1)).flatten
                (parts.drop (front.length + 1)).flatten stretch next) ∧
          ((convert options limit interest pages).flatMap (Chunk.owned interest)).map
              (fun owned => (owned.char, owned.language)) =
            visited.flatMap fun run =>
              (kept run).flatMap fun glyph =>
                if isOfInterest interest glyph then (drawn run glyph).map (·, codeOf options run)
                else [] := by
  obtain ⟨parts, flatten_eq, covered⟩ := exists_parts options limit pages
  refine ⟨Collector.collect_eq_stretches limit interest _ _, runs pages, parts, visits_runs pages,
    flatten_eq, covered.imp fun _ _ => Shows.kept, ?_,
    map_owned_convert options limit interest pages⟩
  intro front stretch next back split
  exact boundary_of_next flatten_eq covered split

/-- A glyph of the first node of a file. -/
def firstGlyph (start stop : Int) : Glyph := ⟨(start, stop), some ⟨some "main", 1⟩, start, 0.5⟩

/-- A word of two characters, the first of which two glyphs draw. -/
def wordRun (text : Text) (lang : String) : TextRun :=
  ⟨text, lang, none, 11, 0.7, 11, [firstGlyph 0 1, firstGlyph 0 1, firstGlyph 1 2]⟩

def bilingualFrame : Frame :=
  ⟨200, 100,
    [⟨0, 10, "text", some (wordRun ['H', 'i'] "en"), none⟩,
      ⟨30, 10, "group", none,
        some ⟨20, 10, [⟨0, 0, "text", some (wordRun ['D', 'u'] "de"), none⟩]⟩⟩]⟩

/-- A page with an English word and, in a group, a German one. -/
def bilingual : List Page := [⟨1, bilingualFrame⟩]

theorem visits_bilingual :
    Visits bilingual [wordRun ['H', 'i'] "en", wordRun ['D', 'u'] "de"] := by
  have has_glyphs (text : Text) (lang : String) : (wordRun text lang).glyphs ≠ [] :=
    List.cons_ne_nil _ _
  have inner : Carries [⟨0, 0, "text", some (wordRun ['D', 'u'] "de"), none⟩]
      [wordRun ['D', 'u'] "de"] := .text rfl rfl (has_glyphs _ _) .nil
  have group : Carries bilingualFrame.items.tail ([wordRun ['D', 'u'] "de"] ++ []) :=
    .group rfl rfl inner .nil
  have items : Carries bilingualFrame.items
      (wordRun ['H', 'i'] "en" :: ([wordRun ['D', 'u'] "de"] ++ [])) :=
    .text rfl rfl (has_glyphs _ _) group
  rw [bilingual, ← List.append_nil [wordRun _ _, wordRun _ _]]
  exact .cons items .nil

/-- The page comes to two chunks.  The one in English ends where the run in German begins, and the
glyph that draws a character again adds nothing. -/
theorem chunks_pure_and_complete_bilingual :
    ∃ stretch next part later,
      Collector.stretches 1000 LanguageCode.standard (output ⟨0.65, []⟩ bilingual) =
          [stretch, next] ∧
        part ++ later = [wordRun ['H', 'i'] "en", wordRun ['D', 'u'] "de"] ∧
        ShowsKept ⟨0.65, []⟩ stretch.language stretch.events part ∧
        ShowsKept ⟨0.65, []⟩ next.language next.events later ∧
        Boundary ⟨0.65, []⟩ bilingual part later stretch next ∧
        ((convert ⟨0.65, []⟩ 1000 (some "main") bilingual).flatMap (Chunk.owned (some "main"))).map
            (fun owned => (owned.char, owned.language)) =
          [('H', "en-US"), ('i', "en-US"), ('D', "de-DE"), ('u', "de-DE")] := by
  have two_stretches : (Collector.stretches 1000 LanguageCode.standard
      (output ⟨0.65, []⟩ bilingual)).length = 2 := by
    decide +kernel
  obtain ⟨stretch, next, split⟩ := List.length_eq_two.1 two_stretches
  obtain ⟨-, visited, parts, visits, flatten_eq, covered, bounded, owned_eq⟩ :=
    chunks_pure_and_complete ⟨0.65, []⟩ 1000 (some "main") bilingual
  obtain rfl := visits.unique visits_bilingual
  rw [split] at covered
  obtain ⟨part, others, shows, rest, rfl⟩ := List.forall₂_cons_left_iff.1 covered
  obtain ⟨later, none, shows_next, nothing, rfl⟩ := List.forall₂_cons_left_iff.1 rest
  obtain rfl := List.forall₂_nil_left_iff.1 nothing
  refine ⟨stretch, next, part, later, split, by simpa using flatten_eq, shows, shows_next, ?_, ?_⟩
  · simpa using bounded [] stretch next [] split
  · rw [owned_eq]
    decide +kernel

end Layout
end ProseCheck
