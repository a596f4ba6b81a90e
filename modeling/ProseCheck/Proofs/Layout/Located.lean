import ProseCheck.Proofs.Layout.Parts
import ProseCheck.Proofs.Location.Verbatim
import ProseCheck.Proofs.Text.Octets

/-!
# Where laid-out characters stand

If the glyphs of pages draw octets of text nodes as they are, then each character of a chunk that
comes from a node has one location, which is where the source writes that character.  What comes
from no node was added by a separator or drawn by a glyph without a node.
-/

namespace ProseCheck
namespace Stretch

/-- A piece of a chunk adds the character at a place of the stream. -/
def AddsAt (stretch : Stretch) (index : Nat) (piece : Piece) : Prop :=
  ∃ before after, Event.pieces stretch.events = before ++ piece :: after ∧
    (Piece.stream before).length ≤ index ∧
    index < (Piece.stream before).length + piece.emitted.length

end Stretch

/-- Each character of a chunk is one of a piece that adds it, and has the origin of its mark. -/
theorem Stretch.exists_addsAt {stretch : Stretch} {index : Nat} {char : Char}
    (char_eq : stretch.chunk.stream[index]? = some char) :
    ∃ piece mark, stretch.AddsAt index piece ∧ mark ∈ piece.marks ∧ mark.char = char ∧
      stretch.chunk.map.resolve index = .ok mark.origin ∧
      stretch.chunk.map.origin? index = mark.origin := by
  obtain ⟨inside, -⟩ := List.getElem?_eq_some_iff.1 char_eq
  obtain ⟨mark, -, mark_eq, -, -, resolved, origin_eq⟩ := stretch.exists_mark_of_lt inside
  have stream_eq : stretch.chunk.stream = stretch.marks.map Mark.char :=
    Piece.stream_eq_map_marks _
  rw [stream_eq, List.getElem?_map, mark_eq] at char_eq
  obtain ⟨before, piece, after, place, pieces_eq, marked, rfl⟩ :=
    Piece.exists_of_getElem?_marks mark_eq
  obtain ⟨place_lt, -⟩ := List.getElem?_eq_some_iff.1 marked
  rw [Piece.length_marks] at place_lt
  exact ⟨piece, mark, ⟨before, after, pieces_eq, by omega, by omega⟩, List.mem_of_getElem? marked,
    Option.some.inj char_eq, resolved, origin_eq⟩

theorem Stretch.AddsAt.mem_pieces {stretch : Stretch} {index : Nat} {piece : Piece}
    (adds : stretch.AddsAt index piece) : piece ∈ Event.pieces stretch.events := by
  obtain ⟨before, after, pieces_eq, -⟩ := adds
  simp [pieces_eq]

/-- A suggestion about one character that has a range has that location. -/
theorem PositionMap.locations_of_one (map : PositionMap) {world : World}
    {interest : Option FileId} {ignored : List String} {index : Nat} {location : Location}
    (inside : index < map.stream.length)
    (found : map.candidate? world interest ignored index = some location) {suggestion : Suggestion}
    (start_eq : suggestion.start = index) (stop_eq : suggestion.stop = index + 1) :
    map.locations world interest ignored suggestion = [location] := by
  have covered_eq : map.covered suggestion = [index] := by
    have one : min (index + 1) map.stream.length - index = 1 := by omega
    rw [covered_eq_range', start_eq, stop_eq, one, List.range'_one]
  rw [locations, covered_eq, List.filterMap_cons, found]
  rfl

namespace Layout

/-- A glyph that draws octets of a text node as they are. -/
structure Draws (run : TextRun) (glyph : Glyph) (placed : Placed) : Prop where
  starts : Utf8.IsBoundary run.text glyph.range.1
  stops : Utf8.IsBoundary run.text glyph.range.2
  is_text : placed.node.kind = .text
  childless : placed.node.children = []
  same_octets :
    Utf8.octetsIn placed.node.text glyph.offset
        (glyph.offset + (glyph.range.2 - glyph.range.1)) =
      Utf8.octetsIn run.text glyph.range.1 glyph.range.2

/-- A glyph whose node writes its cluster from its offset on. -/
theorem Draws.exists_around {run : TextRun} {glyph : Glyph} {placed : Placed}
    (draws : Draws run glyph placed) (nonempty : cluster (Utf8.encode run.text) glyph ≠ []) :
    ∃ before after, Utf8.encode placed.node.text =
        before ++ Utf8.encode (cluster (Utf8.encode run.text) glyph) ++ after ∧
      glyph.offset = (before.length : Int) := by
  obtain ⟨part, slice_eq, octets_eq, size_eq⟩ := Utf8.exists_part draws.starts draws.stops
  have cluster_eq : cluster (Utf8.encode run.text) glyph = part := by
    rw [cluster, slice_eq, Utf8.decodeLossy_encode]
  rw [cluster_eq] at nonempty ⊢
  have same := draws.same_octets
  rw [octets_eq, size_eq nonempty] at same
  exact Utf8.exists_around nonempty same

/-- A character that a glyph draws is located where the source writes it. -/
theorem located_of_mem_marks {world : World} {run : TextRun} {glyph : Glyph} {span : Span}
    {placed : Placed} (attached : attached? glyph = some span)
    (found : world.find? span = some placed) (draws : Draws run glyph placed) {mark : Mark}
    (mem : mark ∈ (glyphPiece run glyph).marks) :
    ∃ origin file source, mark.origin = some origin ∧ origin.span = span ∧
      span.file = some file ∧ world.source? file = some source ∧
      Utf8.decode? (Slice.between source.octets (placed.start + origin.start)
        (placed.start + origin.stop)) = some [mark.char] := by
  obtain ⟨file, file_eq, source, source_eq, source_found⟩ : ∃ file, span.file = some file ∧
      ∃ source, world.source? file = some source ∧ source.find? span = some placed := by
    rw [World.find?] at found
    split at found
    · contradiction
    · rename_i file file_eq
      obtain ⟨source, source_eq, source_found⟩ := Option.bind_eq_some_iff.1 found
      exact ⟨file, file_eq, source, source_eq, source_found⟩
  rw [glyphPiece, attached, Piece.marks] at mem
  obtain ⟨left, right, cluster_eq, origin_eq⟩ := Mark.exists_of_mem_verbatim mem
  refine ⟨_, file, source, origin_eq, rfl, file_eq, source_eq, ?_⟩
  obtain ⟨before, after, node_eq, offset_eq⟩ := draws.exists_around (by simp [cluster_eq])
  obtain ⟨front, back, text_eq, start_eq, -⟩ := Source.standsIn_of_find? source_found
  rw [Node.fullText_of_childless draws.childless] at text_eq
  have octets_eq : source.octets =
      (Utf8.encode front ++ before ++ Utf8.encode left) ++ Utf8.encode [mark.char] ++
        (Utf8.encode right ++ after ++ Utf8.encode back) := by
    rw [source.octets_eq, text_eq, Utf8.encode_append, Utf8.encode_append, node_eq, cluster_eq,
      ← List.singleton_append, Utf8.encode_append, Utf8.encode_append]
    simp only [List.append_assoc]
  rw [octets_eq, Slice.between_middle, Utf8.decode?_encode]
  · simp only [List.length_append, Utf8.length_encode]
    omega
  · simp only [List.length_append, Utf8.length_encode, Utf8.size]
    omega

/-- Where a character of a chunk of pages comes from. -/
inductive Provenance (world : World) (pages : List Page) (stretch : Stretch) (index : Nat)
    (char : Char) : Prop where
  /-- A separator added it, and it has no origin. -/
  | separator {piece : Piece} (adds : stretch.AddsAt index piece)
      (separates : piece.isSeparator = true)
      (no_origin : stretch.chunk.map.resolve index = .ok none)
  /-- A glyph without a node drew it, and it has no origin. -/
  | detached {run : TextRun} {glyph : Glyph} (run_mem : run ∈ runs pages)
      (glyph_mem : glyph ∈ shown run) (detached : attached? glyph = none)
      (adds : stretch.AddsAt index (glyphPiece run glyph))
      (no_origin : stretch.chunk.map.resolve index = .ok none)
  /-- A glyph of a node drew it, and its one location is where the file of the node writes it. -/
  | located {run : TextRun} {glyph : Glyph} {origin : Origin} {file : FileId} {source : Source}
      {start stop : Int} (run_mem : run ∈ runs pages) (glyph_mem : glyph ∈ shown run)
      (attached : attached? glyph = some origin.span)
      (adds : stretch.AddsAt index (glyphPiece run glyph))
      (resolves : stretch.chunk.map.resolve index = .ok (some origin))
      (file_eq : origin.span.file = some file) (source_eq : world.source? file = some source)
      (one_location : ∀ suggestion : Suggestion, suggestion.start = index →
        suggestion.stop = index + 1 →
          stretch.chunk.map.locations world none [] suggestion = [⟨file, start, stop⟩])
      (written : Utf8.decode? (Slice.between source.octets start stop) = some [char])

/-- The position map of laid-out pages is right.  If each glyph of a node stands between characters
of its run and draws octets of a text leaf as they are, then each character of a chunk that has no
origin was added by a separator or drawn by a glyph without a node, and any other one has one
location, where the file of its node writes it. -/
theorem provenance_of_chunks (options : Options) (limit : Int) {world : World} {pages : List Page}
    (drawn : ∀ run ∈ runs pages, ∀ glyph ∈ run.glyphs, ∀ span, attached? glyph = some span →
      ∃ placed, world.find? span = some placed ∧ Draws run glyph placed)
    {chunk : Chunk} (mem : chunk ∈ convert options limit none pages) :
    ∃ stretch ∈ Collector.stretches limit LanguageCode.standard (output options pages),
      stretch.chunk = chunk ∧ ∀ index char, chunk.stream[index]? = some char →
        Provenance world pages stretch index char := by
  rw [convert_eq_collect, Collector.collect_eq_stretches] at mem
  obtain ⟨stretch, kept_mem, rfl⟩ := List.mem_map.1 mem
  have stretch_mem := (List.mem_filter.1 kept_mem).1
  obtain ⟨part, shows, part_mem⟩ := exists_shows_of_mem_stretches stretch_mem
  refine ⟨stretch, stretch_mem, rfl, fun index char char_eq => ?_⟩
  obtain ⟨inside, -⟩ := List.getElem?_eq_some_iff.1 char_eq
  obtain ⟨piece, mark, adds, mark_mem, rfl, resolved, origin_eq⟩ :=
    Stretch.exists_addsAt char_eq
  cases separates : piece.isSeparator with
  | true =>
      have no_origin := Piece.origin_eq_none (Piece.span?_of_isSeparator separates) mark_mem
      exact .separator adds separates (by rw [resolved, no_origin])
  | false =>
      obtain ⟨run, run_mem, glyph, glyph_mem, rfl⟩ :=
        shows.exists_glyph adds.mem_pieces separates
      have run_mem := part_mem run run_mem
      cases attached : attached? glyph with
      | none =>
          have no_origin := Piece.origin_eq_none (by exact attached) mark_mem
          exact .detached run_mem glyph_mem attached adds (by rw [resolved, no_origin])
      | some span =>
          obtain ⟨placed, found, draws⟩ :=
            drawn run run_mem glyph (mem_glyphs_of_mem_shown glyph_mem) span attached
          obtain ⟨origin, file, source, mark_origin, rfl, file_eq, source_eq, written⟩ :=
            located_of_mem_marks attached found draws mark_mem
          have candidate : stretch.chunk.map.candidate? world none [] index =
              some (placed.locate file origin) :=
            (PositionMap.candidate?_eq_some_iff _ _ _ _ _ _).2
              ⟨origin, file, placed, by rw [origin_eq, mark_origin], file_eq, by simp, found,
                (placed.isIgnored_eq_false_iff []).2 (by simp), rfl⟩
          rw [Placed.locate, if_pos draws.is_text] at candidate
          exact .located run_mem glyph_mem attached adds (by rw [resolved, mark_origin]) file_eq
            source_eq (fun _ => PositionMap.locations_of_one _ inside candidate) written

/-- A file that ends with an accented word. -/
def accentedSource : Source :=
  .ofTree "main" (.inner .markup [.leaf .text ['a'], .leaf .space [' '], .leaf .text ['d', 'é']])

/-- The accented word of the file as a run, with a hyphen that comes from no node. -/
def accentedRun : TextRun :=
  ⟨['d', 'é', '-'], "en", none, 11, 0.7, 16,
    [⟨(0, 1), some ⟨some "main", 3⟩, 0, 0.5⟩, ⟨(1, 3), some ⟨some "main", 3⟩, 1, 0.5⟩,
      ⟨(3, 4), none, 0, 0.5⟩]⟩

/-- A page of that run. -/
def accented : List Page := [⟨1, ⟨200, 100, [⟨0, 10, "text", some accentedRun, none⟩]⟩⟩]

theorem provenance_of_chunks_accented :
    (∀ run ∈ runs accented, ∀ glyph ∈ run.glyphs, ∀ span, attached? glyph = some span →
      ∃ placed, (World.ofSource accentedSource).find? span = some placed ∧
        Draws run glyph placed) ∧
      ∃ chunk ∈ convert ⟨0.65, []⟩ 1000 none accented,
        ∃ stretch ∈ Collector.stretches 1000 LanguageCode.standard (output ⟨0.65, []⟩ accented),
          stretch.chunk = chunk ∧
            Provenance (World.ofSource accentedSource) accented stretch 1 'é' ∧
            Provenance (World.ofSource accentedSource) accented stretch 2 '-' := by
  have drawn : ∀ run ∈ runs accented, ∀ glyph ∈ run.glyphs, ∀ span,
      attached? glyph = some span → ∃ placed,
        (World.ofSource accentedSource).find? span = some placed ∧ Draws run glyph placed := by
    intro run run_mem glyph glyph_mem span attached
    obtain rfl : run = accentedRun := List.mem_singleton.1 run_mem
    have found : (World.ofSource accentedSource).find? ⟨some "main", 3⟩ = some
        ⟨⟨.text, ['d', 'é'], [], ⟨some "main", 3⟩⟩, 2, 5, [accentedSource.root]⟩ := rfl
    simp only [accentedRun, List.mem_cons, List.not_mem_nil, or_false] at glyph_mem
    rcases glyph_mem with rfl | rfl | rfl
    · obtain rfl := Option.some.inj attached
      exact ⟨_, found, ⟨[], ['d', 'é', '-'], rfl, rfl⟩, ⟨['d'], ['é', '-'], rfl, rfl⟩, rfl, rfl,
        rfl⟩
    · obtain rfl := Option.some.inj attached
      exact ⟨_, found, ⟨['d'], ['é', '-'], rfl, rfl⟩, ⟨['d', 'é'], ['-'], rfl, rfl⟩, rfl, rfl, rfl⟩
    · contradiction
  have mem := List.get_mem (convert ⟨0.65, []⟩ 1000 none accented) ⟨0, by decide +kernel⟩
  obtain ⟨stretch, stretch_mem, chunk_eq, characters⟩ :=
    provenance_of_chunks ⟨0.65, []⟩ 1000 drawn mem
  exact ⟨drawn, _, mem, stretch, stretch_mem, chunk_eq, characters 1 'é' (by decide +kernel),
    characters 2 '-' (by decide +kernel)⟩

end Layout
end ProseCheck
