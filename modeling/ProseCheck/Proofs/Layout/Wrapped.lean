import ProseCheck.Proofs.Chunk.Successive
import ProseCheck.Proofs.Layout.Visited

/-!
# Wrapped text

The text of one node may be set in many runs, broken over lines and pages.  As long as each run
goes on in the node where the one before it stopped, the conversion ignores where the runs stand:
nothing separates them, and all of them become one segment, with one run of characters, of one
chunk.
-/

namespace ProseCheck
namespace Layout

/-- Characters that glyphs draw together: one glyph, or several with an advance each. -/
structure Cluster where
  /-- The characters. -/
  text : Text
  /-- Advance of each glyph. -/
  advances : List Float
  text_ne : text ≠ []
  advances_ne : advances ≠ []

/-- Text of clusters. -/
def textOf (clusters : List Cluster) : Text := clusters.flatMap Cluster.text

/-- A glyph that draws a text which stands at octet `start` of its run and at octet `offset` of a
node. -/
def glyphOf (span : Span) (start offset : Nat) (text : Text) (advance : Float) : Glyph :=
  ⟨(start, ↑(start + Utf8.size text)), some span, offset, advance⟩

/-- Glyphs that draw clusters one after the other. -/
def glyphsOf (span : Span) : Nat → Nat → List Cluster → List Glyph
  | _, _, [] => []
  | start, offset, cluster :: rest =>
    cluster.advances.map (glyphOf span start offset cluster.text) ++
      glyphsOf span (start + Utf8.size cluster.text) (offset + Utf8.size cluster.text) rest

/-- The first glyph of each cluster. -/
def firstsOf (span : Span) : Nat → Nat → List Cluster → List Glyph
  | _, _, [] => []
  | start, offset, cluster :: rest =>
    glyphOf span start offset cluster.text (cluster.advances.head cluster.advances_ne) ::
      firstsOf span (start + Utf8.size cluster.text) (offset + Utf8.size cluster.text) rest

/-- A run that sets clusters of a node, the first of which stands at octet `offset` of it. -/
structure Sets (span : Span) (offset : Nat) (clusters : List Cluster) (run : TextRun) : Prop where
  text_eq : run.text = textOf clusters
  glyphs_eq : run.glyphs = glyphsOf span 0 offset clusters

/-- Runs that set groups of clusters, each of which goes on in the node behind the one before. -/
inductive SetsAll (span : Span) : Nat → List (List Cluster) → List TextRun → Prop where
  | nil {offset : Nat} : SetsAll span offset [] []
  | cons {offset : Nat} {clusters : List Cluster} {groups : List (List Cluster)} {run : TextRun}
      {runs : List TextRun} (sets : Sets span offset clusters run)
      (later : SetsAll span (offset + Utf8.size (textOf clusters)) groups runs) :
      SetsAll span offset (clusters :: groups) (run :: runs)

theorem Cluster.size_pos (cluster : Cluster) : 0 < Utf8.size cluster.text :=
  Utf8.size_pos cluster.text_ne

section Glyphs

variable {span : Span}

/-- A glyph that draws a cluster again adds nothing. -/
theorem shownFrom_copies (start offset : Nat) (text : Text) (first : Float) (advances : List Float)
    (rest : List Glyph) :
    shownFrom (some (glyphOf span start offset text first).range)
        (advances.map (glyphOf span start offset text) ++ rest) =
      shownFrom (some (glyphOf span start offset text first).range) rest := by
  induction advances with
  | nil => rfl
  | cons advance advances induction =>
      rw [List.map_cons, List.cons_append, shownFrom, if_pos (by simp [glyphOf]), induction]

/-- Of the glyphs of each cluster the first one is shown. -/
theorem shownFrom_glyphsOf {last : Option (Int × Int)} {start : Nat}
    (ends_before : ∀ range ∈ last, range.2 ≤ start) (offset : Nat) (clusters : List Cluster) :
    shownFrom last (glyphsOf span start offset clusters) = firstsOf span start offset clusters := by
  induction clusters generalizing last start offset with
  | nil => rfl
  | cons cluster rest induction =>
      have first_copies : cluster.advances.map (glyphOf span start offset cluster.text) =
          glyphOf span start offset cluster.text (cluster.advances.head cluster.advances_ne) ::
            cluster.advances.tail.map (glyphOf span start offset cluster.text) := by
        rw [← List.map_cons, List.cons_head_tail]
      have adds : last.any (fun range => range.1 ≤ (start : Int) &&
          ((start + Utf8.size cluster.text : Nat) : Int) ≤ range.2) = false := by
        rw [Option.any_eq_false]
        intro range mem
        have := ends_before range mem
        have := cluster.size_pos
        simp only [Bool.and_eq_false_iff, decide_eq_false_iff_not]
        omega
      rw [glyphsOf, first_copies, List.cons_append, shownFrom, firstsOf,
        if_neg (by exact Bool.eq_false_iff.1 adds), shownFrom_copies, induction]
      simp [glyphOf]

@[simp]
theorem attached?_glyphOf (attached : span.isDetached = false) (start offset : Nat) (text : Text)
    (width : Float) : attached? (glyphOf span start offset text width) = some span := by
  simp [attached?, glyphOf, attached]

/-- A glyph of an attached node leads behind its cluster. -/
theorem advance_cons (attached : span.isDetached = false) (place : Option Span × Int)
    (start offset : Nat) (text : Text) (width : Float) (rest : List Glyph) :
    advance place (glyphOf span start offset text width :: rest) =
      advance (some span, ↑(offset + Utf8.size text)) rest := by
  have stop_eq : (offset : Int) + (↑(start + Utf8.size text) - start) =
      ↑(offset + Utf8.size text) := by omega
  rw [advance, List.foldl_cons, attached?_glyphOf attached]
  simp only [glyphOf, stop_eq]
  rfl

theorem advance_firstsOf (attached : span.isDetached = false) (start offset : Nat)
    (clusters : List Cluster) :
    advance (some span, offset) (firstsOf span start offset clusters) =
      (some span, ↑(offset + Utf8.size (textOf clusters))) := by
  induction clusters generalizing start offset with
  | nil => simp [firstsOf, advance, textOf]
  | cons cluster rest induction =>
      rw [firstsOf, advance_cons attached, induction]
      simp [textOf, Nat.add_assoc]

/-- Clusters lead behind themselves from wherever the walk stood. -/
theorem advance_firstsOf_of_ne (attached : span.isDetached = false) (place : Option Span × Int)
    (start offset : Nat) {clusters : List Cluster} (some_cluster : clusters ≠ []) :
    advance place (firstsOf span start offset clusters) =
      (some span, ↑(offset + Utf8.size (textOf clusters))) := by
  obtain ⟨cluster, rest, rfl⟩ := List.exists_cons_of_ne_nil some_cluster
  rw [← advance_firstsOf attached start, firstsOf, advance_cons attached, advance_cons attached]

/-- The first glyphs of clusters show the clusters as they follow each other. -/
theorem map_glyphPiece_firstsOf (attached : span.isDetached = false) {run : TextRun}
    (before : Text) (offset : Nat) {clusters : List Cluster}
    (text_eq : run.text = before ++ textOf clusters) :
    (firstsOf span (Utf8.size before) offset clusters).map (glyphPiece run) =
      Piece.successive span offset (clusters.map Cluster.text) := by
  induction clusters generalizing before offset with
  | nil => rfl
  | cons cluster rest induction =>
      have text_split : run.text = before ++ cluster.text ++ textOf rest := by
        rw [text_eq, List.append_assoc]
        rfl
      have shows : Layout.cluster (Utf8.encode run.text)
          (glyphOf span (Utf8.size before) offset cluster.text
            (cluster.advances.head cluster.advances_ne)) = cluster.text :=
        drawn_of_split text_split rfl
      have piece_eq : glyphPiece run (glyphOf span (Utf8.size before) offset cluster.text
            (cluster.advances.head cluster.advances_ne)) =
          .plain cluster.text (some span) offset := by
        rw [glyphPiece, shows, attached?_glyphOf attached]
        rfl
      rw [firstsOf, List.map_cons, piece_eq, ← Utf8.size_append, induction _ _ text_split]
      rfl

end Glyphs

variable {span : Span} {offset : Nat} {clusters : List Cluster} {run : TextRun}

theorem Sets.shown_eq (sets : Sets span offset clusters run) :
    shown run = firstsOf span 0 offset clusters := by
  rw [shown, sets.glyphs_eq]
  exact shownFrom_glyphsOf (by simp) offset clusters

/-- A run shows its clusters as they follow each other in the node. -/
theorem Sets.runPieces_eq (sets : Sets span offset clusters run)
    (attached : span.isDetached = false) :
    runPieces run = Piece.successive span offset (clusters.map Cluster.text) := by
  rw [runPieces, sets.shown_eq]
  exact map_glyphPiece_firstsOf attached [] offset sets.text_eq

theorem Sets.clusters_ne (sets : Sets span offset clusters run) (has_glyphs : run.glyphs ≠ []) :
    clusters ≠ [] := by
  rintro rfl
  exact has_glyphs sets.glyphs_eq

/-- The first glyph of a run goes on where the run stands in its node. -/
theorem Sets.first_eq (sets : Sets span offset clusters run) {first : Glyph} {rest : List Glyph}
    (glyphs_eq : run.glyphs = first :: rest) : first.span = some span ∧ first.offset = offset := by
  have some_cluster := sets.clusters_ne (by simp [glyphs_eq])
  obtain ⟨cluster, others, rfl⟩ := List.exists_cons_of_ne_nil some_cluster
  obtain ⟨advance, copies, advances_eq⟩ := List.exists_cons_of_ne_nil cluster.advances_ne
  rw [sets.glyphs_eq, glyphsOf, advances_eq] at glyphs_eq
  obtain ⟨rfl, -⟩ := List.cons.inj glyphs_eq
  exact ⟨rfl, rfl⟩

variable {options : Options} {language : String} {state : State}

/-- The cursor behind a run, at a place in the nodes. -/
def cursorAfter (run : TextRun) (x y : Float) (place : Option Span × Int) : Cursor :=
  ⟨x + runWidth run, some y, run.size, run.capHeight, place.1, place.2⟩

/-- A run behind another one of the same language. -/
theorem runEvents_of_cursor {cursor : Cursor} (cursor_eq : state.cursor = some cursor)
    (same : codeOf options run = state.language) {first : Glyph} {rest : List Glyph}
    (glyphs_eq : run.glyphs = first :: rest) (x y : Float) :
    runEvents options state run x y =
      (⟨state.language,
          some (cursorAfter run x y (advance (cursor.span, cursor.offset) (shown run)))⟩,
        separation options cursor first x y ++ (runPieces run).map .piece) := by
  have unchanged : LanguageCode.resolve options.languages run.lang run.region = state.language :=
    same
  simp [runEvents, glyphs_eq, unchanged, cursor_eq, map_glyphEvent, cursorAfter]

theorem runEvents_blank (blank : run.glyphs = []) (x y : Float) :
    runEvents options state run x y = (state, []) := by
  simp [runEvents, blank]

/-- The first run of pages. -/
theorem runEvents_initial (has_glyphs : run.glyphs ≠ []) (x y : Float) :
    runEvents options .initial run x y =
      (⟨codeOf options run, some (cursorAfter run x y (advance (none, 0) (shown run)))⟩,
        (if codeOf options run = LanguageCode.standard then []
          else [.language (codeOf options run)]) ++ (runPieces run).map .piece) := by
  obtain ⟨first, rest, glyphs_eq⟩ := List.exists_cons_of_ne_nil has_glyphs
  by_cases same : codeOf options run = LanguageCode.standard
  · have unchanged :
        LanguageCode.resolve options.languages run.lang run.region = LanguageCode.standard := same
    simp [runEvents, glyphs_eq, codeOf, unchanged, map_glyphEvent, cursorAfter, State.initial]
  · have changed :
        LanguageCode.resolve options.languages run.lang run.region ≠ LanguageCode.standard := same
    simp [runEvents, glyphs_eq, codeOf, changed, map_glyphEvent, cursorAfter, State.initial]

/-- A walk that stands at an octet of a node, in a chunk of a language. -/
structure Stands (language : String) (span : Span) (offset : Nat) (state : State) : Prop where
  language_eq : state.language = language
  place_eq : (state.cursor.map fun cursor => (cursor.span, cursor.offset)) =
    some (some span, (offset : Int))

theorem stands_cursorAfter (language : String) (span : Span) (offset : Nat) (run : TextRun)
    (x y : Float) :
    Stands language span offset ⟨language, some (cursorAfter run x y (some span, offset))⟩ :=
  ⟨rfl, rfl⟩

/-- A walk goes on over the break of a page. -/
theorem Stands.pageBreak (stands : Stands language span offset state) :
    Stands language span offset (after options state .pageBreak) where
  language_eq := stands.language_eq
  place_eq := by
    rw [after, Option.map_map]
    exact stands.place_eq

/-- Nothing separates a run that goes on where the walk stands, and the walk then stands behind
it. -/
theorem Stands.joins (stands : Stands language span offset state)
    (attached : span.isDetached = false) (sets : Sets span offset clusters run)
    (has_glyphs : run.glyphs ≠ []) (same : codeOf options run = language) (x y : Float) :
    stepEvents options state (.run run x y) = (runPieces run).map .piece ∧
      Stands language span (offset + Utf8.size (textOf clusters))
        (after options state (.run run x y)) := by
  obtain ⟨rfl, place_eq⟩ := stands
  obtain ⟨cursor, cursor_eq, place_eq⟩ := Option.map_eq_some_iff.1 place_eq
  obtain ⟨first, rest, glyphs_eq⟩ := List.exists_cons_of_ne_nil has_glyphs
  obtain ⟨first_span, first_offset⟩ := sets.first_eq glyphs_eq
  obtain ⟨cursor_span, cursor_offset⟩ := Prod.mk.inj place_eq
  have joined : separation options cursor first x y = [] := by
    simp [separation, Layout.continues, first_span, first_offset, cursor_span, cursor_offset]
  have behind : advance (cursor.span, cursor.offset) (shown run) =
      (some span, ↑(offset + Utf8.size (textOf clusters))) := by
    rw [place_eq, sets.shown_eq, advance_firstsOf attached]
  rw [stepEvents, after, runEvents_of_cursor cursor_eq same glyphs_eq, joined, behind]
  exact ⟨rfl, stands_cursorAfter _ _ _ run x y⟩

/-- Events that show texts as they follow each other from an octet of a node on, and ask for no
other chunk. -/
structure Continues (span : Span) (offset : Nat) (texts : List Text) (events : List Event) :
    Prop where
  goes_on : ∀ event ∈ events, event.goesOn = true
  pieces_eq : Event.pieces events = Piece.successive span offset texts

theorem Continues.nil (span : Span) (offset : Nat) : Continues span offset [] [] := by
  constructor
  · simp
  · rfl

theorem Continues.pageBreak {texts : List Text} {rest : List Event}
    (continues : Continues span offset texts rest) :
    Continues span offset texts (.paragraphBreak :: rest) where
  goes_on := List.forall_mem_cons.2 ⟨rfl, continues.goes_on⟩
  pieces_eq := continues.pieces_eq

/-- A run goes before what continues behind it. -/
theorem Sets.continues (sets : Sets span offset clusters run) (attached : span.isDetached = false)
    {texts : List Text} {rest : List Event}
    (continues : Continues span (offset + Utf8.size (textOf clusters)) texts rest) :
    Continues span offset (clusters.map Cluster.text ++ texts)
      ((runPieces run).map .piece ++ rest) where
  goes_on event mem := by
    rcases List.mem_append.1 mem with own | later
    · obtain ⟨piece, -, rfl⟩ := List.mem_map.1 own
      rfl
    · exact continues.goes_on event later
  pieces_eq := by
    rw [Event.pieces_append, Event.pieces_map_piece, continues.pieces_eq,
      sets.runPieces_eq attached, Piece.successive_append, ← List.flatMap_def]
    rfl

/-- The rest of a node that a walk stands in is shown with nothing in between. -/
theorem Stands.continues {steps : List Step} {groups : List (List Cluster)}
    (stands : Stands language span offset state) (attached : span.isDetached = false)
    (sets_all : SetsAll span offset groups (runsOf steps))
    (one_language : ∀ run ∈ runsOf steps, codeOf options run = language) :
    Continues span offset (groups.flatten.map Cluster.text) (events options state steps) := by
  induction steps generalizing state offset groups with
  | nil =>
      cases sets_all
      exact .nil span offset
  | cons step rest induction =>
      rw [events_cons]
      cases step with
      | pageBreak => exact (induction stands.pageBreak sets_all one_language).pageBreak
      | run run x y =>
          by_cases blank : run.glyphs = []
          · rw [runsOf_blank_cons blank] at sets_all one_language
            rw [stepEvents, after, runEvents_blank blank]
            exact induction stands sets_all one_language
          · rw [runsOf_run_cons blank] at sets_all one_language
            obtain ⟨same, rest_same⟩ := List.forall_mem_cons.1 one_language
            cases sets_all with
            | cons sets later =>
                obtain ⟨added_eq, stands⟩ := stands.joins attached sets blank same x y
                rw [added_eq, List.flatten_cons, List.map_append]
                exact sets.continues attached (induction stands later rest_same)

section Collect

variable {limit : Int} {interest : Option FileId} {taken : List Event}

/-- Events that show a node from its first octet on are collected as one chunk. -/
theorem Continues.collected {rest : List Event} {clusters : List Cluster}
    (continues : Continues span 0 (clusters.map Cluster.text) rest)
    (some_cluster : clusters ≠ []) (no_pieces : Event.pieces taken = [])
    (of_interest : ∀ file ∈ interest, span.file = some file)
    (fits : ((textOf clusters).length : Int) ≤ limit) :
    ((Collector.stretchesFrom limit language taken rest).filter fun stretch =>
        Collector.keeps interest stretch.draft).map Stretch.chunk =
      [.whole language span (textOf clusters)] := by
  have nonempty : ∀ text ∈ clusters.map Cluster.text, text ≠ [] := by
    simpa using fun cluster _ => cluster.text_ne
  have pieces_eq : Event.pieces (taken ++ rest) =
      Piece.successive span 0 (clusters.map Cluster.text) := by
    rw [Event.pieces_append, no_pieces, continues.pieces_eq, List.nil_append]
  have size_eq : Event.size (taken ++ rest) = (textOf clusters).length := by
    rw [Event.size, pieces_eq, Piece.stream_successive, ← List.flatMap_def, textOf]
  have draft_eq : Stretch.draft ⟨language, taken ++ rest, none⟩ =
      ⟨language, [], Piece.successive span 0 (clusters.map Cluster.text)⟩ := by
    rw [Stretch.draft, pieces_eq]
  have chunk_eq : (Stretch.draft ⟨language, taken ++ rest, none⟩).chunk =
      .whole language span (textOf clusters) := by
    rw [draft_eq, Draft.chunk_successive language span nonempty (by simpa using some_cluster),
      ← List.flatMap_def, textOf]
  have kept : Collector.keeps interest (Stretch.draft ⟨language, taken ++ rest, none⟩) = true :=
    Collector.keeps_of_entries (by rw [chunk_eq, Chunk.whole]) rfl of_interest
  rw [Collector.stretchesFrom_of_goesOn continues.goes_on (by rw [size_eq]; exact fits),
    List.filter_cons_of_pos (by exact kept)]
  simpa [Stretch.chunk] using chunk_eq

/-- If they begin another language, the chunk before them is empty and not kept. -/
theorem Continues.collected_of_language {before : String} {rest : List Event}
    {clusters : List Cluster} (continues : Continues span 0 (clusters.map Cluster.text) rest)
    (some_cluster : clusters ≠ []) (no_pieces : Event.pieces taken = [])
    (of_interest : ∀ file ∈ interest, span.file = some file)
    (fits : ((textOf clusters).length : Int) ≤ limit) :
    ((Collector.stretchesFrom limit before taken
        ((if language = before then [] else [.language language]) ++ rest)).filter fun stretch =>
          Collector.keeps interest stretch.draft).map Stretch.chunk =
      [.whole language span (textOf clusters)] := by
  by_cases same : language = before
  · rw [if_pos same, List.nil_append, ← same]
    exact continues.collected some_cluster no_pieces of_interest fits
  · have ends : Collector.successor? limit ⟨before, [], Event.pieces taken⟩
        (.language language) = some language := if_neg same
    have dropped : Collector.keeps interest
        (Stretch.draft ⟨before, taken, some (.language language)⟩) = false := by
      rw [Stretch.draft, no_pieces, Collector.keeps_of_no_pieces]
    rw [if_neg same, List.singleton_append, Collector.stretchesFrom_of_ends ends,
      List.filter_cons_of_neg (by simpa using dropped)]
    exact continues.collected some_cluster rfl of_interest fits

/-- A walk that is still to meet its first run collects one chunk of the whole node. -/
theorem collected_of_initial {steps : List Step} {groups : List (List Cluster)}
    (attached : span.isDetached = false) (no_pieces : Event.pieces taken = [])
    (some_cluster : groups.flatten ≠ []) (sets_all : SetsAll span 0 groups (runsOf steps))
    (one_language : ∀ run ∈ runsOf steps, codeOf options run = language)
    (of_interest : ∀ file ∈ interest, span.file = some file)
    (fits : ((textOf groups.flatten).length : Int) ≤ limit) :
    ((Collector.stretchesFrom limit LanguageCode.standard taken
        (events options .initial steps)).filter fun stretch =>
          Collector.keeps interest stretch.draft).map Stretch.chunk =
      [.whole language span (textOf groups.flatten)] := by
  induction steps generalizing taken with
  | nil =>
      cases sets_all
      contradiction
  | cons step rest induction =>
      rw [events_cons]
      cases step with
      | pageBreak =>
          have joins : Collector.successor? limit ⟨LanguageCode.standard, [], Event.pieces taken⟩
              .paragraphBreak = none := by
            rw [no_pieces, Collector.successor?]
            exact if_neg (by simp [Draft.size, Draft.pieces, Piece.stream]; omega)
          rw [stepEvents, List.singleton_append, Collector.stretchesFrom_of_joins joins]
          exact induction (by simpa [Event.piece?] using no_pieces) sets_all one_language
      | run run x y =>
          by_cases blank : run.glyphs = []
          · rw [runsOf_blank_cons blank] at sets_all one_language
            rw [stepEvents, after, runEvents_blank blank]
            exact induction no_pieces sets_all one_language
          · rw [runsOf_run_cons blank] at sets_all one_language
            obtain ⟨rfl, rest_same⟩ := List.forall_mem_cons.1 one_language
            cases sets_all with
            | @cons _ clusters groups _ _ sets later =>
                have behind : advance (none, 0) (shown run) =
                    (some span, ↑(0 + Utf8.size (textOf clusters))) := by
                  rw [sets.shown_eq, advance_firstsOf_of_ne attached _ _ _ (sets.clusters_ne blank)]
                have stands := stands_cursorAfter (codeOf options run) span
                  (0 + Utf8.size (textOf clusters)) run x y
                have continues := sets.continues attached
                  (stands.continues attached later rest_same)
                rw [← List.map_append, ← List.flatten_cons] at continues
                rw [stepEvents, after, runEvents_initial blank, behind, List.append_assoc]
                exact continues.collected_of_language some_cluster no_pieces of_interest fits

end Collect

/-- Wrapped text stays whole.  If the runs of pages set the text of a node in clusters as they
follow each other, all in one language and within the limit, then wherever the runs stand the pages
are one chunk: its stream is the text of the node, and its position map is one exact run, which
starts at the first octet of the node and is as long as the text. -/
theorem convert_wrapped (options : Options) {limit : Int} {interest : Option FileId}
    {pages : List Page} {node : Node} {groups : List (List Cluster)} {language : String}
    (nonempty : node.text ≠ []) (attached : node.span.isDetached = false)
    (text_eq : textOf groups.flatten = node.text)
    (sets_all : SetsAll node.span 0 groups (runs pages))
    (one_language : ∀ run ∈ runs pages, codeOf options run = language)
    (of_interest : ∀ file ∈ interest, node.span.file = some file)
    (fits : (node.text.length : Int) ≤ limit) :
    convert options limit interest pages =
      [⟨[⟨.text, node.text, []⟩],
        ⟨node.text, [⟨0, node.text.length, some node.span, 0, true, Utf8.size node.text⟩]⟩,
        language⟩] := by
  rw [convert_eq_collect, Collector.collect_eq_stretches, Collector.stretches, output, ← text_eq]
  refine collected_of_initial attached rfl ?_ sets_all one_language of_interest (by rwa [text_eq])
  rintro no_cluster
  rw [no_cluster] at text_eq
  exact nonempty text_eq.symm

/-- A word in which an accent is a glyph of its own. -/
def accentedNode : Node := ⟨.text, ['d', 'é'], [], ⟨some "main", 3⟩⟩

/-- The clusters of the word. -/
def plainCluster : Cluster := ⟨['d'], [0.5], by decide, by simp⟩

@[inherit_doc plainCluster]
def accentedCluster : Cluster := ⟨['é'], [0.5, 0], by decide, by simp⟩

/-- A German run of one cluster of the word, at a height of a page. -/
def clusterItem (offset : Nat) (cluster : Cluster) (y : Float) : FrameItem :=
  ⟨0, y, "text",
    some ⟨cluster.text, "de", none, 11, 0.7, 5.5, glyphsOf accentedNode.span 0 offset [cluster]⟩,
    none⟩

/-- Two pages, the second of which goes on in the word where the first one stops. -/
def wrappedPages : List Page :=
  [⟨1, ⟨200, 100, [clusterItem 0 plainCluster 90]⟩⟩,
    ⟨2, ⟨200, 100, [clusterItem 1 accentedCluster 10]⟩⟩]

theorem convert_wrapped_accented :
    convert ⟨0.65, []⟩ 2 none wrappedPages =
      [⟨[⟨.text, ['d', 'é'], []⟩],
        ⟨['d', 'é'], [⟨0, 2, some ⟨some "main", 3⟩, 0, true, 3⟩]⟩, "de-DE"⟩] := by
  have sets_all : SetsAll accentedNode.span 0 [[plainCluster], [accentedCluster]]
      (runs wrappedPages) :=
    .cons ⟨rfl, rfl⟩ (.cons ⟨rfl, rfl⟩ .nil)
  have one_language : ∀ run ∈ runs wrappedPages, codeOf ⟨0.65, []⟩ run = "de-DE" :=
    List.forall_mem_cons.2
      ⟨by decide +kernel, List.forall_mem_cons.2 ⟨by decide +kernel, List.forall_mem_nil _⟩⟩
  exact convert_wrapped ⟨0.65, []⟩ (by decide) rfl rfl sets_all one_language (by simp) (by decide)

end Layout
end ProseCheck
