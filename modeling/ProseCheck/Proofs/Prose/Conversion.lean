import ProseCheck.Document
import ProseCheck.Proofs.Chunk.Request
import ProseCheck.Proofs.Prose.Portions
import ProseCheck.Proofs.Prose.Tokens
import ProseCheck.Proofs.World

/-!
# The conversion of plain prose

Each run of plain prose becomes one piece, which emits the normal form of the run, and the chunks of
a text are those of its portions.  So the chunks of a text write down the text, their streams make
up its normal form, and the normal form has the same streams: converting it again changes nothing.
-/

namespace ProseCheck
namespace Prose

/-- The piece of a run. -/
def piece (span : Span) (run : Text) : Piece :=
  if normalRun run = run ∧ kindOf run ≠ .parbreak then .plain run (some span) 0
  else .encoded run (normalRun run) (some span)

/-- The place where a chunk may end, behind a paragraph break. -/
def breakBehind (run : Text) : List Event :=
  if kindOf run = .parbreak then [.paragraphBreak] else []

section Piece

variable (span : Span) (run : Text)

@[simp]
theorem emitted_piece : (piece span run).emitted = normalRun run := by
  unfold piece
  split
  · rename_i stands
    exact stands.1.symm
  · rfl

@[simp]
theorem written_piece : (piece span run).written = run := by
  unfold piece
  split <;> rfl

@[simp]
theorem span?_piece : (piece span run).span? = some span := by
  unfold piece
  split <;> rfl

/-- A segment does not tell where its run stands. -/
theorem segment_piece (other : Span) : (piece span run).segment = (piece other run).segment := by
  unfold piece
  split <;> rfl

/-- The conversion of a leaf of prose. -/
theorem leafEvents_run :
    Markup.leafEvents (kindOf run) run span = .piece (piece span run) :: breakBehind run := by
  cases blank : Text.isBlankText run with
  | false =>
      simp [kindOf, piece, normalRun, breakBehind, blank, Markup.leafEvents, Markup.reveal]
  | true =>
      by_cases several : run.count '\n' ≥ 2
      · simp [kindOf, piece, normalRun, breakBehind, blank, several, Markup.leafEvents,
          Markup.replace, Markup.paragraph]
      · have kind : kindOf run = .space := by simp [kindOf, blank, several]
        have feeds : run.any (· == '\n') = true ↔ 0 < run.count '\n' := by
          simp [List.count_pos_iff]
        by_cases one : run.count '\n' = 1
        · have some_feed : run.any (· == '\n') = true := feeds.2 (by omega)
          have rewritten : normalRun run = ['\n'] := by simp [normalRun, blank, one]
          by_cases stands : run = ['\n']
          · subst stands
            rfl
          · simp [piece, breakBehind, kind, rewritten, Ne.symm stands, stands, some_feed,
              Markup.leafEvents, Markup.spaceEvent, Markup.replace]
        · have no_feed : run.any (· == '\n') = false := by
            rw [← Bool.not_eq_true, feeds]
            omega
          have same : normalRun run = run := by simp [normalRun, blank, several, one]
          simp [piece, breakBehind, kind, same, no_feed, Markup.leafEvents, Markup.spaceEvent,
            Markup.reveal]

end Piece

section Tree

variable (file : FileId)

/-- The node of a numbered run. -/
def nodeAt (run : Text × Nat) : Node := ⟨kindOf run.1, run.1, [], ⟨some file, run.2⟩⟩

/-- The piece of a numbered run. -/
def pieceAt (run : Text × Nat) : Piece := piece ⟨some file, run.2⟩ run.1

/-- The events of a numbered run. -/
def eventsAt (run : Text × Nat) : List Event := .piece (pieceAt file run) :: breakBehind run.1

theorem numberedAll_leaves (first : Nat) (leaves : List Text) :
    Node.numberedAll file first (leaves.map leafOf) = (leaves.zipIdx first).map (nodeAt file) := by
  induction leaves generalizing first with
  | nil => rfl
  | cons run rest induction =>
      rw [List.map_cons, Node.numberedAll, List.zipIdx_cons, List.map_cons]
      exact congrArg _ (induction (first + 1))

/-- The tree of plain prose in a file. -/
theorem root_ofTree_parse (text : Text) :
    (Source.ofTree file (parse text)).root =
      ⟨.markup, [], (numbered text).map (nodeAt file), ⟨some file, 0⟩⟩ := by
  have children := numberedAll_leaves file 1 (runs text)
  simpa [Source.ofTree, parse_eq, Node.inner, Node.numbered, numbered] using children

theorem events_nodeAt (rules : Rules) (run : Text × Nat) :
    Markup.events rules .prose (nodeAt file run) = eventsAt file run := by
  rw [eventsAt, pieceAt, ← leafEvents_run, nodeAt, kindOf]
  split
  · rfl
  · split <;> rfl

theorem events_parse (rules : Rules) (text : Text) :
    Markup.events rules .prose (Source.ofTree file (parse text)).root =
      (numbered text).flatMap (eventsAt file) := by
  rw [root_ofTree_parse, Markup.events]
  induction numbered text with
  | nil => rfl
  | cons run rest induction =>
      rw [List.map_cons, Markup.eventsOfAll, events_nodeAt, induction, List.flatMap_cons]

variable (language : String)

/-- The draft of a portion. -/
def draft (portion : List (Text × Nat)) : Draft := ⟨language, [], portion.map (pieceAt file)⟩

theorem size_draft (portion : List (Text × Nat)) :
    (draft file language portion).size = ((portion.map Prod.fst).flatMap normalRun).length := by
  simp [draft, Draft.size, Draft.pieces, Piece.stream, List.flatMap_map, pieceAt]

/-- A draft that holds a run is kept. -/
theorem keeps_draft {portion : List (Text × Nat)} {run : Text × Nat} (mem : run ∈ portion)
    (nonempty : run.1 ≠ []) :
    Collector.keeps (some file) (draft file language portion) = true := by
  have emits : normalRun run.1 ≠ [] := normalRun_ne_nil nonempty
  have owner : (pieceAt file run).file? = some file := by
    simp [pieceAt, Piece.file?, emits]
  have file_mem : file ∈ (draft file language portion).files := by
    rw [Draft.files, List.mem_eraseDups]
    exact List.mem_filterMap.2 ⟨_, List.mem_append_right _ (List.mem_map_of_mem mem), owner⟩
  simpa [Collector.keeps] using file_mem

section

variable {limit : Nat} {taken : List (Text × Nat)} {events : List Event} {run : Text × Nat}
  (pieces_eq : Event.pieces events = taken.map (pieceAt file))
include pieces_eq

theorem pieces_concat (run : Text × Nat) :
    Event.pieces (events ++ [.piece (pieceAt file run)]) = (taken ++ [run]).map (pieceAt file) := by
  simp [pieces_eq, Event.piece?]

/-- A paragraph break ends the stretch of a portion that it fills. -/
theorem successor?_of_isFull (limit : Nat) (breaks : kindOf run.1 = .parbreak) :
    Collector.successor? limit
        ⟨language, [], Event.pieces (events ++ [.piece (pieceAt file run)])⟩ .paragraphBreak =
      if isFull limit ((taken ++ [run]).map Prod.fst) then some language else none := by
  have draft_eq : (⟨language, [], Event.pieces (events ++ [.piece (pieceAt file run)])⟩ : Draft) =
      draft file language (taken ++ [run]) := by
    rw [pieces_concat file pieces_eq, draft]
  have fills : isFull limit ((taken ++ [run]).map Prod.fst) = true ↔
      (limit : Int) < (draft file language (taken ++ [run])).size := by
    rw [size_draft, Int.ofNat_lt, List.map_append, List.map_singleton, isFull_iff,
      and_iff_right breaks]
  rw [draft_eq, Collector.successor?]
  simp only [fills]
  rfl

/-- The events of a run that fills its portion end a stretch. -/
theorem stretchesFrom_of_isFull {limit : Nat}
    (is_full : isFull limit ((taken ++ [run]).map Prod.fst) = true) (rest : List Event) :
    ∃ seen, Event.pieces seen = (taken ++ [run]).map (pieceAt file) ∧
      Collector.stretchesFrom limit language events (eventsAt file run ++ rest) =
        ⟨language, seen, some .paragraphBreak⟩ ::
          Collector.stretchesFrom limit language [] rest := by
  refine ⟨events ++ [.piece (pieceAt file run)], pieces_concat file pieces_eq run, ?_⟩
  have breaks : kindOf run.1 = .parbreak := by
    rw [List.map_append, List.map_singleton, isFull_iff] at is_full
    exact is_full.1
  have ends := successor?_of_isFull file language pieces_eq limit breaks
  rw [if_pos is_full] at ends
  rw [eventsAt, breakBehind, if_pos breaks, List.cons_append, List.singleton_append,
    Collector.stretchesFrom_of_joins rfl, Collector.stretchesFrom_of_ends ends]

/-- The events of any other run go on with the stretch. -/
theorem stretchesFrom_of_not_isFull {limit : Nat}
    (open_still : isFull limit ((taken ++ [run]).map Prod.fst) = false) (rest : List Event) :
    ∃ seen, Event.pieces seen = (taken ++ [run]).map (pieceAt file) ∧
      Collector.stretchesFrom limit language events (eventsAt file run ++ rest) =
        Collector.stretchesFrom limit language seen rest := by
  have grown := pieces_concat file pieces_eq run
  by_cases breaks : kindOf run.1 = .parbreak
  · refine ⟨events ++ [.piece (pieceAt file run)] ++ [.paragraphBreak], ?_, ?_⟩
    · simpa [Event.piece?] using grown
    · have goes_on := successor?_of_isFull file language pieces_eq limit breaks
      rw [if_neg (Bool.eq_false_iff.1 open_still)] at goes_on
      rw [eventsAt, breakBehind, if_pos breaks, List.cons_append, List.singleton_append,
        Collector.stretchesFrom_of_joins rfl, Collector.stretchesFrom_of_joins goes_on]
  · refine ⟨events ++ [.piece (pieceAt file run)], grown, ?_⟩
    rw [eventsAt, breakBehind, if_neg breaks, List.cons_append, List.nil_append,
      Collector.stretchesFrom_of_joins rfl]

end

/-- The kept stretches of the runs still to come are the portions of these runs. -/
theorem kept_stretchesFrom {limit : Nat} {taken : List (Text × Nat)} {events : List Event}
    (pieces_eq : Event.pieces events = taken.map (pieceAt file)) {rest : List (Text × Nat)}
    (nonempty : ∀ run ∈ taken ++ rest, run.1 ≠ []) :
    ((Collector.stretchesFrom limit language events (rest.flatMap (eventsAt file))).filter
        fun stretch => Collector.keeps (some file) stretch.draft).map Stretch.chunk =
      (portionsFrom (fun portion => isFull limit (portion.map Prod.fst)) taken rest).map
        fun portion => (draft file language portion).chunk := by
  induction rest generalizing taken events with
  | nil =>
      have draft_eq : (⟨language, events, none⟩ : Stretch).draft = draft file language taken := by
        rw [Stretch.draft, pieces_eq, draft]
      rcases taken with _ | ⟨run, taken⟩
      · have unkept : Collector.keeps (some file) (draft file language []) = false := rfl
        simp [Collector.stretchesFrom, portionsFrom, draft_eq, unkept]
      · have kept : Collector.keeps (some file) (draft file language (run :: taken)) = true :=
          keeps_draft file language List.mem_cons_self (nonempty run (by simp))
        simp [Collector.stretchesFrom, portionsFrom, draft_eq, kept, Stretch.chunk]
  | cons run rest induction =>
      rw [List.flatMap_cons, portionsFrom]
      split
      · rename_i is_full
        obtain ⟨seen, seen_eq, stretches_eq⟩ := stretchesFrom_of_isFull file language pieces_eq
          is_full (rest.flatMap (eventsAt file))
        have draft_eq : (⟨language, seen, some .paragraphBreak⟩ : Stretch).draft =
            draft file language (taken ++ [run]) := by
          rw [Stretch.draft, seen_eq, draft]
        have kept : Collector.keeps (some file) (draft file language (taken ++ [run])) = true :=
          keeps_draft file language (List.mem_append_right _ List.mem_cons_self)
            (nonempty run (by simp))
        have later_nonempty : ∀ other ∈ [] ++ rest, other.1 ≠ [] :=
          fun other mem => nonempty other (by simp_all)
        rw [stretches_eq, List.filter_cons_of_pos (by rw [draft_eq, kept]), List.map_cons,
          List.map_cons, induction rfl later_nonempty, Stretch.chunk, draft_eq]
      · rename_i goes_on
        obtain ⟨seen, seen_eq, stretches_eq⟩ := stretchesFrom_of_not_isFull file language pieces_eq
          (by simpa using goes_on) (rest.flatMap (eventsAt file))
        rw [stretches_eq]
        exact induction seen_eq (by simpa using nonempty)

end Tree

/-- Chunks of plain prose in a file. -/
def chunks (options : Options) (file : FileId) (text : Text) : List Chunk :=
  (World.ofProse file text).chunks options false

/-- The chunk of a portion. -/
def chunkOf (file : FileId) (language : String) (portion : List (Text × Nat)) : Chunk :=
  (draft file language portion).chunk

section ChunkOf

variable (file : FileId) (language : String) (portion : List (Text × Nat))

theorem segments_chunkOf :
    (chunkOf file language portion).segments = Piece.segments (portion.map (pieceAt file)) := by
  simp [chunkOf, draft, Draft.chunk]

@[simp]
theorem stream_chunkOf :
    (chunkOf file language portion).stream = (portion.map Prod.fst).flatMap normalRun := by
  simp [chunkOf, draft, Draft.chunk, Draft.pieces, Chunk.stream, Piece.positionMap, Piece.stream,
    List.flatMap_map, pieceAt]

@[simp]
theorem written_chunkOf :
    (chunkOf file language portion).written = (portion.map Prod.fst).flatten := by
  rw [Chunk.written, segments_chunkOf, Piece.flatMap_written_segments, List.flatMap_map,
    ← List.flatMap_id, List.flatMap_map]
  exact List.flatMap_congr fun run _ => written_piece _ run.1

end ChunkOf

/-- Chunks of portions one after the other have the streams of their runs. -/
theorem flatMap_stream_map_chunkOf (file : FileId) (language : String)
    (portions : List (List (Text × Nat))) :
    (portions.map (chunkOf file language)).flatMap Chunk.stream =
      (portions.flatten.map Prod.fst).flatMap normalRun := by
  rw [List.flatMap_map, List.map_flatten, ← List.flatMap_id, List.flatMap_assoc, List.flatMap_map]
  exact List.flatMap_congr fun portion _ => stream_chunkOf file language portion

section Chunks

variable (options : Options) {file : FileId} (named : file ≠ "") (text : Text)
include named

/-- The chunks of plain prose are those of its portions. -/
theorem chunks_eq_map_portions :
    chunks options file text =
      (portions options.chunkSize text).map (chunkOf file options.language) := by
  have source_eq : (World.ofProse file text).source? file = some (.ofTree file (parse text)) := by
    simp [World.source?, World.ofProse]
  have nonempty : ∀ run ∈ [] ++ numbered text, run.1 ≠ [] := by
    intro run mem
    have run_mem : run.1 ∈ (numbered text).map Prod.fst := List.mem_map_of_mem mem
    rw [numbered, List.zipIdx_map_fst] at run_mem
    exact (isRun_of_mem_runs run_mem).nonempty
  rw [chunks, World.chunks_main rfl options rfl named, World.fileChunks, source_eq]
  simp only
  rw [Markup.convert, events_parse, Collector.collect_eq_stretches, Collector.stretches,
    kept_stretchesFrom file options.language rfl nonempty]
  rfl

theorem map_stream_chunks :
    (chunks options file text).map Chunk.stream =
      (portionsFrom (isFull options.chunkSize) [] (runs text)).map (List.flatMap normalRun) := by
  rw [chunks_eq_map_portions options named, ← map_fst_portions, List.map_map, List.map_map]
  exact List.map_congr_left fun portion _ => stream_chunkOf file options.language portion

theorem map_written_chunks :
    (chunks options file text).map Chunk.written =
      (portionsFrom (isFull options.chunkSize) [] (runs text)).map List.flatten := by
  rw [chunks_eq_map_portions options named, ← map_fst_portions, List.map_map, List.map_map]
  exact List.map_congr_left fun portion _ => written_chunkOf file options.language portion

theorem flatMap_written_chunks : (chunks options file text).flatMap Chunk.written = text := by
  rw [List.flatMap_def, map_written_chunks options named, ← List.flatten_flatten,
    flatten_portionsFrom, List.nil_append, flatten_runs]

theorem flatMap_stream_chunks : (chunks options file text).flatMap Chunk.stream = normal text := by
  rw [chunks_eq_map_portions options named, flatMap_stream_map_chunkOf, flatten_portions, numbered,
    List.zipIdx_map_fst, normal_eq_flatMap_runs]

/-- The normal form of a text is cut where the text is cut. -/
theorem map_stream_chunks_normal :
    (chunks options file (normal text)).map Chunk.stream =
      (chunks options file text).map Chunk.stream := by
  have cut := portionsFrom_map (isFull options.chunkSize) normalRun
    (isFull_map_normalRun options.chunkSize) [] (runs text)
  rw [map_stream_chunks options named, map_stream_chunks options named, runs_normal]
  calc
    _ = ((portionsFrom (isFull options.chunkSize) [] (runs text)).map (List.map normalRun)).map
        (List.flatMap normalRun) := congrArg _ cut
    _ = _ := by
      rw [List.map_map]
      refine List.map_congr_left fun portion _ => ?_
      simp [List.flatMap_map]

/-- The chunks of plain prose write down the text, and their streams make up its normal form.  The
normal form has the same streams, so converting what was converted changes nothing. -/
theorem normal_form_of_chunks :
    (chunks options file text).flatMap Chunk.written = text ∧
      (chunks options file text).flatMap Chunk.stream = normal text ∧
      (chunks options file (normal text)).map Chunk.stream =
        (chunks options file text).map Chunk.stream :=
  ⟨flatMap_written_chunks options named text, flatMap_stream_chunks options named text,
    map_stream_chunks_normal options named text⟩

end Chunks

/-- Three words that are cut behind a blank line with blanks in it. -/
def threeWords : Text := "a \n b\t\n \nc ".toList

/-- Options that cut chunks of four characters. -/
def shortChunks : Options := { Options.standard with chunkSize := 3 }

theorem normal_form_of_chunks_threeWords :
    ("main.txt" : FileId) ≠ "" ∧
      (chunks shortChunks "main.txt" threeWords).flatMap Chunk.written = threeWords ∧
      (chunks shortChunks "main.txt" threeWords).flatMap Chunk.stream = normal threeWords ∧
      (chunks shortChunks "main.txt" (normal threeWords)).map Chunk.stream =
        (chunks shortChunks "main.txt" threeWords).map Chunk.stream :=
  ⟨by decide, normal_form_of_chunks shortChunks (by decide) threeWords⟩

example : normal threeWords = "a\nb\n\nc ".toList := by decide

end Prose
end ProseCheck
