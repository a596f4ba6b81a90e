import ProseCheck.Proofs.Location.Order
import ProseCheck.Proofs.Markup.Exact
import ProseCheck.Proofs.World

/-!
# Canonical locations

The locations of a suggestion about a chunk of a conversion stand apart from each other, in the
order of the file and between characters of it, and hold the octets of the characters that the
suggestion is about and no others.
-/

namespace ProseCheck

namespace PositionMap

/-- Ranges of the characters that a suggestion is about. -/
def candidates (map : PositionMap) (world : World) (interest : Option FileId)
    (ignored : List String) (suggestion : Suggestion) : List Location :=
  (map.covered suggestion).filterMap (map.candidate? world interest ignored)

/-- Whether an octet is one that a suggestion about a chunk is about: it is of a character of the
chunk in the range of the suggestion that comes from a node of the file of interest in no ignored
call.  A character of a text node has octets of its own, any other one has those of its node. -/
def IsAbout (map : PositionMap) (source : Source) (interest : Option FileId)
    (ignored : List String) (suggestion : Suggestion) (octet : Int) : Prop :=
  ∃ (index : Nat) (origin : Origin) (placed : Placed),
    suggestion.start ≤ index ∧ index < min suggestion.stop map.stream.length ∧
      map.resolve index = .ok (some origin) ∧
      (∀ wanted, interest = some wanted → origin.span.file = some wanted) ∧
      source.find? origin.span = some placed ∧
      (∀ node ∈ placed.ancestors, ∀ name ∈ ignored, node.callee? ≠ some name) ∧
      if placed.node.kind = .text then
        placed.start + origin.start ≤ octet ∧ octet < placed.start + origin.stop
      else placed.start ≤ octet ∧ octet < placed.stop

theorem mem_covered_iff (map : PositionMap) (suggestion : Suggestion) (index : Nat) :
    index ∈ map.covered suggestion ↔
      suggestion.start ≤ index ∧ index < min suggestion.stop map.stream.length := by
  rw [covered, List.range_eq_range', List.drop_range', List.mem_range'_1]
  omega

theorem pairwise_covered (map : PositionMap) (suggestion : Suggestion) :
    (map.covered suggestion).Pairwise (· < ·) :=
  List.pairwise_lt_range.sublist (List.drop_sublist _ _)

/-- The range of a character is that of the node which it comes from, if that is in the file of
interest and in no ignored call. -/
theorem candidate?_eq_some_iff (map : PositionMap) (world : World) (interest : Option FileId)
    (ignored : List String) (index : Nat) (location : Location) :
    map.candidate? world interest ignored index = some location ↔
      ∃ origin file placed, map.origin? index = some origin ∧ origin.span.file = some file ∧
        (∀ wanted, interest = some wanted → wanted = file) ∧
        world.find? origin.span = some placed ∧ placed.isIgnored ignored = false ∧
        placed.locate file origin = location := by
  unfold candidate?
  constructor
  · intro found
    split at found
    · contradiction
    · rename_i origin origin_eq
      split at found
      · contradiction
      · rename_i file file_eq
        split at found
        · contradiction
        · rename_i passes
          split at found
          · contradiction
          · rename_i placed placed_eq
            split at found
            · contradiction
            · rename_i shown
              refine ⟨origin, file, placed, origin_eq, file_eq, ?_, placed_eq, by simpa using shown,
                Option.some.inj found⟩
              rintro wanted rfl
              simpa using passes
  · rintro ⟨origin, file, placed, origin_eq, file_eq, passes, placed_eq, shown, rfl⟩
    have no_other : interest.any (· ≠ file) = false := by
      cases interest with
      | none => rfl
      | some wanted => simp [passes wanted rfl]
    simp only [origin_eq, file_eq, no_other, placed_eq, shown]
    rfl

end PositionMap

/-- A node is not ignored if no call around it has an ignored name. -/
theorem Placed.isIgnored_eq_false_iff (placed : Placed) (ignored : List String) :
    placed.isIgnored ignored = false ↔
      ∀ node ∈ placed.ancestors, ∀ name ∈ ignored, node.callee? ≠ some name := by
  simp only [isIgnored, List.any_eq_false, Option.any_eq_true, List.contains_iff_mem]
  constructor
  · intro named node mem name name_mem callee_eq
    exact named node mem ⟨name, callee_eq, name_mem⟩
  · rintro named node mem ⟨name, callee_eq, name_mem⟩
    exact named node mem name name_mem callee_eq

@[simp]
theorem Placed.file_locate (placed : Placed) (file : FileId) (origin : Origin) :
    (placed.locate file origin).file = file := by
  unfold locate
  split <;> rfl

theorem Placed.holds_locate_iff (placed : Placed) (file : FileId) (origin : Origin) (octet : Int) :
    (placed.locate file origin).Holds octet ↔
      if placed.node.kind = .text then
        placed.start + origin.start ≤ octet ∧ octet < placed.start + origin.stop
      else placed.start ≤ octet ∧ octet < placed.stop := by
  unfold locate
  split <;> rfl

/-- A place of the stream of a stretch reads as a mark of it. -/
theorem Stretch.exists_mark_of_lt (stretch : Stretch) {index : Nat}
    (inside : index < stretch.chunk.stream.length) :
    ∃ mark entry, stretch.marks[index]? = some mark ∧
      stretch.chunk.map.entryAt? index = some entry ∧ entry.exact = mark.exact ∧
      stretch.chunk.map.resolve index = .ok mark.origin ∧
      stretch.chunk.map.origin? index = mark.origin := by
  have reads : Reads stretch.chunk.map.entries stretch.marks := Piece.reads_entries _
  have stream_eq : stretch.chunk.map.stream = stretch.marks.map Mark.char :=
    Piece.stream_eq_map_marks _
  rw [Chunk.stream, stream_eq, List.length_map] at inside
  have found : stretch.marks[index]? = some stretch.marks[index] := List.getElem?_eq_getElem inside
  obtain ⟨entry, holds, exact_eq, resolved⟩ :=
    PositionMap.resolve_of_reads _ reads stream_eq found
  refine ⟨_, entry, found, holds, exact_eq, resolved, ?_⟩
  rw [PositionMap.origin?, resolved]

namespace Markup

theorem lt_of_mem_covered {chunk : Chunk} {suggestion : Suggestion} {index : Nat}
    (mem : index ∈ chunk.map.covered suggestion) : index < chunk.stream.length := by
  have := (chunk.map.mem_covered_iff suggestion index).1 mem
  rw [Chunk.stream]
  omega

section

variable {id : FileId} {tree : Node} {world : World} {stretch : Stretch} {interest : Option FileId}
  {ignored : List String} {suggestion : Suggestion}

/-- A candidate is a location where the character of its place stands. -/
theorem standsAt_of_candidate? (source_mem : Source.ofTree id tree ∈ world.sources)
    (shown : (Source.ofTree id tree).Shown 0 (Event.pieces stretch.events)) {index : Nat}
    (inside : index < stretch.chunk.stream.length) {location : Location}
    (found : stretch.chunk.map.candidate? world interest ignored index = some location) :
    ∃ mark, stretch.marks[index]? = some mark ∧
      (Source.ofTree id tree).StandsAt mark location := by
  obtain ⟨mark, entry, mark_eq, -, -, -, origin_eq⟩ := stretch.exists_mark_of_lt inside
  obtain ⟨origin, file, placed, origin_found, file_eq, -, placed_found, -, rfl⟩ :=
    (PositionMap.candidate?_eq_some_iff _ _ _ _ _ _).1 found
  rw [origin_eq] at origin_found
  obtain ⟨other, other_mem, -, -, -, span_eq⟩ :=
    shown.exists_standsFor (List.mem_of_getElem? mark_eq) origin_found
  have other_found := World.find?_of_mem_places source_mem other_mem
  rw [← span_eq, placed_found] at other_found
  obtain rfl := Option.some.inj other_found
  have other_file : placed.node.span.file = some id :=
    Node.span_of_mem_preorder_numbered id (Source.node_mem_of_mem_places other_mem)
  rw [span_eq, other_file] at file_eq
  obtain rfl := Option.some.inj file_eq
  exact ⟨mark, mark_eq, origin, placed, origin_found, other_mem, span_eq, rfl⟩

/-- Candidates lie in nodes of the source, between characters of it. -/
theorem exists_confines_of_mem_candidates (shaped : tree.isShaped = true)
    (source_mem : Source.ofTree id tree ∈ world.sources)
    (shown : (Source.ofTree id tree).Shown 0 (Event.pieces stretch.events)) {candidate : Location}
    (mem : candidate ∈ stretch.chunk.map.candidates world interest ignored suggestion) :
    ∃ placed, (Source.ofTree id tree).Confines placed candidate := by
  obtain ⟨index, index_mem, found⟩ := List.mem_filterMap.1 mem
  have inside := lt_of_mem_covered index_mem
  obtain ⟨mark, mark_eq, stands_at⟩ := standsAt_of_candidate? source_mem shown inside found
  obtain ⟨placed, -, confines⟩ :=
    shown.exists_confines (Node.isShaped_numbered id shaped 0) (List.mem_of_getElem? mark_eq)
      stands_at
  exact ⟨placed, confines⟩

/-- Candidates come in the order of the file. -/
theorem pairwise_candidates (shaped : tree.isShaped = true)
    (source_mem : Source.ofTree id tree ∈ world.sources)
    (shown : (Source.ofTree id tree).Shown 0 (Event.pieces stretch.events)) :
    (stretch.chunk.map.candidates world interest ignored suggestion).Pairwise
      fun earlier later => later.Follows earlier := by
  refine List.pairwise_filterMap.2 ?_
  refine (stretch.chunk.map.pairwise_covered suggestion).imp_of_mem ?_
  intro earlier later earlier_mem later_mem before first first_found second second_found
  obtain ⟨mark, mark_eq, first_at⟩ :=
    standsAt_of_candidate? source_mem shown (lt_of_mem_covered earlier_mem) first_found
  obtain ⟨other, other_eq, second_at⟩ :=
    standsAt_of_candidate? source_mem shown (lt_of_mem_covered later_mem) second_found
  obtain ⟨earlier_lt, rfl⟩ := List.getElem?_eq_some_iff.1 mark_eq
  obtain ⟨later_lt, rfl⟩ := List.getElem?_eq_some_iff.1 other_eq
  have ordered := shown.pairwise_follows (Node.isShaped_numbered id shaped 0)
  exact List.pairwise_iff_getElem.1 ordered earlier later earlier_lt later_lt before first second
    first_at second_at

/-- The locations of a suggestion sum up its candidates. -/
theorem sumsUp_locations (shaped : tree.isShaped = true)
    (source_mem : Source.ofTree id tree ∈ world.sources)
    (shown : (Source.ofTree id tree).Shown 0 (Event.pieces stretch.events)) :
    Location.SumsUp id (stretch.chunk.map.candidates world interest ignored suggestion)
      (stretch.chunk.map.locations world interest ignored suggestion) := by
  refine (Location.SumsUp.nil id).foldl_insert ?_ ?_ (pairwise_candidates shaped source_mem shown)
  · intro candidate mem
    obtain ⟨placed, confines⟩ := exists_confines_of_mem_candidates shaped source_mem shown mem
    exact confines.file_eq
  · intro candidate mem
    obtain ⟨placed, confines⟩ := exists_confines_of_mem_candidates shaped source_mem shown mem
    exact confines.start_le_stop

/-- A location starts and stops between characters of the source. -/
theorem bounds_of_mem_locations (shaped : tree.isShaped = true)
    (source_mem : Source.ofTree id tree ∈ world.sources)
    (shown : (Source.ofTree id tree).Shown 0 (Event.pieces stretch.events)) {location : Location}
    (mem : location ∈ stretch.chunk.map.locations world interest ignored suggestion) :
    location.file = id ∧ location.start ≤ location.stop ∧
      (Source.ofTree id tree).IsBoundary location.start ∧
      (Source.ofTree id tree).IsBoundary location.stop := by
  have drawn := (sumsUp_locations shaped source_mem shown).drawn location mem
  obtain ⟨first, first_mem, start_eq⟩ := drawn.starts
  obtain ⟨last, last_mem, stop_eq⟩ := drawn.stops
  obtain ⟨_, first_in⟩ := exists_confines_of_mem_candidates shaped source_mem shown first_mem
  obtain ⟨_, last_in⟩ := exists_confines_of_mem_candidates shaped source_mem shown last_mem
  refine ⟨drawn.file_eq, drawn.start_le_stop, ?_, ?_⟩
  · rw [← start_eq]
    exact first_in.starts
  · rw [← stop_eq]
    exact last_in.stops

/-- A place of the stream that resolves to a node resolves to one of the source. -/
theorem find?_of_resolve (source_mem : Source.ofTree id tree ∈ world.sources)
    (shown : (Source.ofTree id tree).Shown 0 (Event.pieces stretch.events)) {index : Nat}
    (inside : index < stretch.chunk.stream.length) {origin : Origin}
    (resolved : stretch.chunk.map.resolve index = .ok (some origin)) :
    stretch.chunk.map.origin? index = some origin ∧ origin.span.file = some id ∧
      world.find? origin.span = (Source.ofTree id tree).find? origin.span := by
  obtain ⟨mark, entry, mark_eq, -, -, mark_resolved, origin_eq⟩ := stretch.exists_mark_of_lt inside
  rw [mark_resolved] at resolved
  have mark_origin := Except.ok.inj resolved
  obtain ⟨placed, placed_mem, -, -, -, span_eq⟩ :=
    shown.exists_standsFor (List.mem_of_getElem? mark_eq) mark_origin
  refine ⟨by rw [origin_eq, mark_origin], ?_, ?_⟩
  · rw [span_eq]
    exact Node.span_of_mem_preorder_numbered id (Source.node_mem_of_mem_places placed_mem)
  · rw [span_eq, World.find?_of_mem_places source_mem placed_mem,
      Source.find?_of_mem_places placed_mem]

/-- The candidates hold the octets that the suggestion is about. -/
theorem exists_candidate_holds_iff (source_mem : Source.ofTree id tree ∈ world.sources)
    (shown : (Source.ofTree id tree).Shown 0 (Event.pieces stretch.events)) (octet : Int) :
    (∃ candidate ∈ stretch.chunk.map.candidates world interest ignored suggestion,
        candidate.Holds octet) ↔
      stretch.chunk.map.IsAbout (Source.ofTree id tree) interest ignored suggestion octet := by
  constructor
  · rintro ⟨candidate, mem, holds⟩
    obtain ⟨index, index_mem, found⟩ := List.mem_filterMap.1 mem
    have inside := lt_of_mem_covered index_mem
    obtain ⟨start_le, lt_stop⟩ := (PositionMap.mem_covered_iff _ _ _).1 index_mem
    obtain ⟨origin, file, placed, origin_eq, file_eq, passes, placed_eq, shows, rfl⟩ :=
      (PositionMap.candidate?_eq_some_iff _ _ _ _ _ _).1 found
    have resolved : stretch.chunk.map.resolve index = .ok (some origin) := by
      rw [PositionMap.resolve_isOk _ inside, origin_eq]
    obtain ⟨-, -, same⟩ := find?_of_resolve source_mem shown inside resolved
    refine ⟨index, origin, placed, start_le, lt_stop, resolved, ?_, by rw [← same, placed_eq],
      (placed.isIgnored_eq_false_iff ignored).1 shows, (placed.holds_locate_iff _ _ _).1 holds⟩
    intro wanted wanted_eq
    rw [file_eq, passes wanted wanted_eq]
  · rintro ⟨index, origin, placed, start_le, lt_stop, resolved, passes, placed_eq, shows, holds⟩
    have index_mem := (stretch.chunk.map.mem_covered_iff suggestion index).2 ⟨start_le, lt_stop⟩
    obtain ⟨origin_eq, file_eq, same⟩ :=
      find?_of_resolve source_mem shown (lt_of_mem_covered index_mem) resolved
    refine ⟨placed.locate id origin, List.mem_filterMap.2 ⟨index, index_mem, ?_⟩,
      (placed.holds_locate_iff _ _ _).2 holds⟩
    refine (PositionMap.candidate?_eq_some_iff _ _ _ _ _ _).2
      ⟨origin, id, placed, origin_eq, file_eq, ?_, by rw [same, placed_eq],
        (placed.isIgnored_eq_false_iff ignored).2 shows, rfl⟩
    intro wanted wanted_eq
    exact Option.some.inj ((passes wanted wanted_eq).symm.trans file_eq)

/-- A character of a text node is in an exact run. -/
theorem exact_of_text
    (shown : (Source.ofTree id tree).Shown 0 (Event.pieces stretch.events)) {index : Nat}
    (inside : index < stretch.chunk.stream.length) {origin : Origin}
    (resolved : stretch.chunk.map.resolve index = .ok (some origin)) {placed : Placed}
    (found : (Source.ofTree id tree).find? origin.span = some placed)
    (text : placed.node.kind = .text) :
    ∃ entry, stretch.chunk.map.entryAt? index = some entry ∧ entry.exact = true := by
  obtain ⟨mark, entry, mark_eq, holds, exact_eq, mark_resolved, -⟩ :=
    stretch.exists_mark_of_lt inside
  rw [mark_resolved] at resolved
  obtain ⟨other, other_mem, piece, stands, mark_mem, span_eq⟩ :=
    shown.exists_standsFor (List.mem_of_getElem? mark_eq) (Except.ok.inj resolved)
  rw [span_eq, Source.find?_of_mem_places other_mem] at found
  obtain rfl := Option.some.inj found
  refine ⟨entry, holds, ?_⟩
  rw [stands.verbatim text] at mark_mem
  rw [exact_eq]
  exact Mark.exact_of_mem_verbatim mark_mem

end

/-- The locations of a suggestion about a chunk of a conversion are canonical.  Each ends before the
next one starts; they lie in the file, between characters of it; and they hold the octets that the
suggestion is about and no others, where the octets of a character of a text node are the written
form of that character. -/
theorem canonical_locations (rules : Rules) (limit : Int) (wanted : Option FileId)
    (language : String) {id : FileId} {tree : Node} (shaped : tree.isShaped = true) {world : World}
    (source_mem : Source.ofTree id tree ∈ world.sources) {chunk : Chunk}
    (mem : chunk ∈ convert rules limit wanted language (Source.ofTree id tree).root) :
    (∀ suggestion interest ignored,
      ((chunk.map.locations world interest ignored suggestion).Pairwise fun earlier later =>
        earlier.stop < later.start) ∧
      (∀ location ∈ chunk.map.locations world interest ignored suggestion,
        location.file = id ∧ 0 ≤ location.start ∧ location.start ≤ location.stop ∧
          location.stop ≤ (Source.ofTree id tree).size ∧
          (Source.ofTree id tree).IsBoundary location.start ∧
          (Source.ofTree id tree).IsBoundary location.stop) ∧
      ∀ octet, (∃ location ∈ chunk.map.locations world interest ignored suggestion,
          location.Holds octet) ↔
        chunk.map.IsAbout (Source.ofTree id tree) interest ignored suggestion octet) ∧
    ∀ (index : Nat) (origin : Origin) (placed : Placed), index < chunk.stream.length →
      chunk.map.resolve index = .ok (some origin) →
        (Source.ofTree id tree).find? origin.span = some placed → placed.node.kind = .text →
          ∃ char, chunk.stream[index]? = some char ∧
            Utf8.decode?
                (Slice.between (Source.ofTree id tree).octets (placed.start + origin.start)
                  (placed.start + origin.stop)) = some [char] := by
  have chunk_mem := mem
  rw [convert, Collector.collect_eq_stretches] at mem
  obtain ⟨stretch, stretch_mem, rfl⟩ := List.mem_map.1 mem
  have shown : (Source.ofTree id tree).Shown 0 (Event.pieces stretch.events) :=
    shown_of_mem_stretches (List.mem_filter.1 stretch_mem).1
  constructor
  · intro suggestion interest ignored
    have sums : Location.SumsUp id
        (stretch.chunk.map.candidates world interest ignored suggestion)
        (stretch.chunk.map.locations world interest ignored suggestion) :=
      sumsUp_locations shaped source_mem shown
    refine ⟨sums.apart, ?_, ?_⟩
    · intro location location_mem
      obtain ⟨file_eq, start_le_stop, starts, stops⟩ :=
        bounds_of_mem_locations shaped source_mem shown location_mem
      exact ⟨file_eq, starts.inside.1, start_le_stop, stops.inside.2, starts, stops⟩
    · intro octet
      rw [sums.exists_holds_iff, exists_candidate_holds_iff source_mem shown]
  · intro index origin placed inside resolved found text
    obtain ⟨entry, holds, exact_eq⟩ := exact_of_text shown inside resolved found text
    obtain ⟨other, char, other_found, -, -, -, item_eq, decoded⟩ :=
      exists_placed_of_exact rules limit language id tree shaped chunk_mem holds exact_eq resolved
    rw [found] at other_found
    obtain rfl := Option.some.inj other_found
    exact ⟨char, by rwa [Slice.item?_natCast] at item_eq, decoded⟩

theorem canonical_locations_twoParagraphs :
    twoParagraphs.isShaped = true ∧
      Source.ofTree "main" twoParagraphs ∈
        (World.ofSource (Source.ofTree "main" twoParagraphs)).sources ∧
      ∃ chunk ∈ convert ⟨[], []⟩ 4 none "en-US" (Source.ofTree "main" twoParagraphs).root,
        chunk.map.locations (World.ofSource (Source.ofTree "main" twoParagraphs)) (some "main")
            ["link"] ⟨2, 6, "", "", "", []⟩ = [⟨"main", 8, 15⟩] ∧
          (∀ octet : Int, 8 ≤ octet ∧ octet < 15 ↔
            chunk.map.IsAbout (Source.ofTree "main" twoParagraphs) (some "main") ["link"]
              ⟨2, 6, "", "", "", []⟩ octet) ∧
          chunk.map.resolve 3 = .ok (some ⟨⟨some "main", 4⟩, 4, 6⟩) ∧
          ∃ char, chunk.stream[3]? = some char ∧
            Utf8.decode? (Slice.between (Source.ofTree "main" twoParagraphs).octets 9 11) =
              some [char] := by
  have shaped : twoParagraphs.isShaped = true := by decide
  have source_mem : Source.ofTree "main" twoParagraphs ∈
      (World.ofSource (Source.ofTree "main" twoParagraphs)).sources := List.mem_singleton_self _
  have mem := List.get_mem
    (convert ⟨[], []⟩ 4 none "en-US" (Source.ofTree "main" twoParagraphs).root) ⟨1, by decide⟩
  obtain ⟨located, written⟩ :=
    canonical_locations ⟨[], []⟩ 4 none "en-US" shaped source_mem mem
  obtain ⟨-, -, octets⟩ := located ⟨2, 6, "", "", "", []⟩ (some "main") ["link"]
  have locations_eq : ((convert ⟨[], []⟩ 4 none "en-US"
      (Source.ofTree "main" twoParagraphs).root).get ⟨1, by decide⟩).map.locations
        (World.ofSource (Source.ofTree "main" twoParagraphs)) (some "main") ["link"]
        ⟨2, 6, "", "", "", []⟩ = [⟨"main", 8, 15⟩] := by
    decide +kernel
  rw [locations_eq] at octets
  simp only [List.mem_singleton, exists_eq_left, Location.Holds] at octets
  have resolved : ((convert ⟨[], []⟩ 4 none "en-US"
      (Source.ofTree "main" twoParagraphs).root).get ⟨1, by decide⟩).map.resolve 3 =
        .ok (some ⟨⟨some "main", 4⟩, 4, 6⟩) := by
    decide +kernel
  obtain ⟨placed, found⟩ : ∃ placed,
      (Source.ofTree "main" twoParagraphs).find? ⟨some "main", 4⟩ = some placed :=
    Option.isSome_iff_exists.1 (by decide +kernel)
  have start_eq : ((Source.ofTree "main" twoParagraphs).find? ⟨some "main", 4⟩).map Placed.start =
      some 5 := by
    decide +kernel
  have kind_eq : ((Source.ofTree "main" twoParagraphs).find? ⟨some "main", 4⟩).map
      (fun placed => placed.node.kind) = some .text := by
    decide +kernel
  rw [found, Option.map_some] at start_eq kind_eq
  obtain ⟨char, stands, decoded⟩ :=
    written 3 _ placed (by decide +kernel) resolved found (Option.some.inj kind_eq)
  rw [Option.some.inj start_eq] at decoded
  exact ⟨shaped, source_mem, _, mem, locations_eq, octets, resolved, char, stands, decoded⟩

end Markup
end ProseCheck
