import ProseCheck.Proofs.Markup.Lossless
import ProseCheck.Proofs.Markup.TextLeaves
import ProseCheck.Proofs.Source.Numbering
import ProseCheck.Proofs.Text.Utf8

/-!
# Exact positions

A character of an exact run stands in the source where its place resolves to.  The characters of
the chunks that come from text leaves are the characters of the text leaves in prose position, in
order, each with the octets of its own.
-/

namespace ProseCheck

/-- The octets of a character within a written text. -/
theorem Utf8.between_encode (before : Text) (char : Char) (after : Text) :
    Slice.between (encode (before ++ char :: after)) (size before : Int)
        ((size before + width char : Nat) : Int) = encodeChar char := by
  have encode_eq : encode (before ++ char :: after) =
      encode before ++ (encodeChar char ++ encode after) := by
    simp [encode]
  rw [Slice.between_natCast, encode_eq, ← length_encode before, ← length_encodeChar char,
    List.take_length_add_append, List.take_left, List.length_append, Nat.min_eq_left (by omega),
    List.drop_left]

namespace Stretch

/-- What a place in an exact run resolves to is the mark of that place. -/
theorem exists_mark_of_exact {stretch : Stretch} {index : Int} {entry : Entry} {origin : Origin}
    (holds : stretch.chunk.map.entryAt? index = some entry) (exact_eq : entry.exact = true)
    (resolved : stretch.chunk.map.resolve index = .ok (some origin)) :
    ∃ mark ∈ stretch.marks, Slice.item? stretch.chunk.stream index = some mark.char ∧
      mark.exact = true ∧ mark.origin = some origin := by
  have reads : Reads stretch.chunk.map.entries stretch.marks := Piece.reads_entries _
  have stream_eq : stretch.chunk.map.stream = stretch.marks.map Mark.char :=
    Piece.stream_eq_map_marks _
  obtain ⟨nonneg, inside⟩ := PositionMap.inside_of_entryAt? _ reads holds
  obtain ⟨place, rfl⟩ := Int.eq_ofNat_of_zero_le nonneg
  obtain ⟨mark, found⟩ : ∃ mark, stretch.marks[place]? = some mark :=
    ⟨_, List.getElem?_eq_getElem (by omega)⟩
  obtain ⟨other, other_holds, other_exact, other_resolved⟩ :=
    PositionMap.resolve_of_reads _ reads stream_eq found
  obtain rfl : entry = other := Option.some.inj (holds.symm.trans other_holds)
  refine ⟨mark, List.mem_of_getElem? found, ?_, by rw [← other_exact, exact_eq], ?_⟩
  · rw [Chunk.stream, stream_eq, Slice.item?_natCast, List.getElem?_map, found, Option.map_some]
  · exact Except.ok.inj (other_resolved.symm.trans resolved)

end Stretch

/-- Whether a span belongs to a text leaf of a source. -/
def Source.isText (source : Source) (span : Span) : Bool :=
  (source.find? span).any fun placed => placed.node.kind = .text

namespace Markup

/-- An exact character with an origin stands in the text of a leaf. -/
theorem Shows.exists_leaf {nodes : List Node} {piece : Piece} (shows : Shows nodes piece)
    {mark : Mark} (mem : mark ∈ piece.marks) (exact_eq : mark.exact = true) {origin : Origin}
    (origin_eq : mark.origin = some origin) :
    ∃ node ∈ nodes, (node.kind.isProseLeaf || node.kind = .colon) = true ∧
      ∃ left right, node.text = left ++ mark.char :: right ∧
        origin = ⟨node.span, Utf8.size left, Utf8.size left + Utf8.width mark.char⟩ := by
  cases shows with
  | nothing text => simp [Piece.marks] at mem
  | separator text =>
      obtain ⟨char, -, rfl⟩ := List.mem_map.1 mem
      simp at exact_eq
  | substitute written substitute node_mem =>
      obtain ⟨char, -, rfl⟩ := List.mem_map.1 mem
      simp at exact_eq
  | @text node node_mem leaf =>
      obtain ⟨left, right, text_eq, mark_origin⟩ := Mark.exists_of_mem_verbatim mem
      refine ⟨node, node_mem, leaf, left, right, text_eq, ?_⟩
      rw [origin_eq] at mark_origin
      simpa using mark_origin

section Source

variable (rules : Rules) (limit : Int) (language : String) (id : FileId) (tree : Node)

/-- A character in an exact run of a chunk stands in the source where it resolves to. -/
theorem exists_placed_of_exact (shaped : tree.isShaped = true) {interest : Option FileId}
    {chunk : Chunk}
    (mem : chunk ∈ convert rules limit interest language (Source.ofTree id tree).root)
    {index : Int} {entry : Entry} {origin : Origin}
    (holds : chunk.map.entryAt? index = some entry) (exact_eq : entry.exact = true)
    (resolved : chunk.map.resolve index = .ok (some origin)) :
    ∃ placed char, (Source.ofTree id tree).find? origin.span = some placed ∧
      0 ≤ origin.start ∧
      (placed.start : Int) + origin.start < placed.start + origin.stop ∧
      (placed.start : Int) + origin.stop ≤ placed.stop ∧
      Slice.item? chunk.stream index = some char ∧
      Utf8.decode?
          (Slice.between (Source.ofTree id tree).octets (placed.start + origin.start)
            (placed.start + origin.stop)) = some [char] := by
  rw [convert, Collector.collect_eq_stretches] at mem
  obtain ⟨stretch, stretch_mem, rfl⟩ := List.mem_map.1 mem
  obtain ⟨mark, mark_mem, item_eq, mark_exact, mark_origin⟩ :=
    Stretch.exists_mark_of_exact holds exact_eq resolved
  obtain ⟨piece, piece_mem, mark_mem⟩ := List.mem_flatMap.1 mark_mem
  have shows := shows_events rules .prose (Source.ofTree id tree).root piece (by
    rw [← Collector.flatMap_pieces_stretches limit language]
    exact List.mem_flatMap.2 ⟨stretch, (List.mem_filter.1 stretch_mem).1, piece_mem⟩)
  obtain ⟨node, node_mem, leaf, left, right, text_eq, rfl⟩ :=
    shows.exists_leaf mark_mem mark_exact mark_origin
  obtain ⟨placed, found, rfl, before, after, source_eq, start_eq, stop_eq⟩ :=
    Source.find?_span node_mem
  have fits := Node.fitsKind_of_isShaped (Node.isShaped_numbered id shaped 0) node_mem
  have childless := Node.childless_of_fitsKind fits leaf
  rw [Node.size, Node.fullText_of_childless childless, text_eq] at stop_eq
  rw [Node.fullText_of_childless childless, text_eq] at source_eq
  have octets_eq : (Source.ofTree id tree).octets =
      Utf8.encode ((before ++ left) ++ mark.char :: (right ++ after)) := by
    rw [Source.octets_eq, source_eq]
    simp
  have width_pos := Utf8.width_pos mark.char
  simp only [Utf8.size_append, Utf8.size_cons] at stop_eq
  refine ⟨placed, mark.char, found, Int.natCast_nonneg _, by simp; omega, by simp; omega, item_eq,
    ?_⟩
  have start_cast : (placed.start : Int) + (Utf8.size left : Int) =
      (Utf8.size (before ++ left) : Int) := by
    rw [start_eq, Utf8.size_append]
    omega
  have stop_cast : (placed.start : Int) + (Utf8.size left + Utf8.width mark.char : Int) =
      ((Utf8.size (before ++ left) + Utf8.width mark.char : Nat) : Int) := by
    rw [start_eq, Utf8.size_append]
    omega
  simp only [start_cast, stop_cast]
  rw [octets_eq, Utf8.between_encode]
  simpa [Utf8.encode] using Utf8.decode?_encode [mark.char]

/-- The characters of the chunks that come from text leaves are those of the text leaves in prose
position. -/
theorem filter_isText_owned_convert (shaped : tree.isShaped = true) :
    ((convert rules limit (some id) language (Source.ofTree id tree).root).flatMap
        (Chunk.owned (some id))).filter
        (fun owned => (Source.ofTree id tree).isText owned.origin.span) =
      (textLeaves .prose (Source.ofTree id tree).root).flatMap (Node.ownedChars language) := by
  have walk := walk_events rules .prose (Source.ofTree id tree).root .done
  rw [List.append_nil] at walk
  have agenda_eq : agendaNodes [(.read .prose, (Source.ofTree id tree).root)] =
      (Source.ofTree id tree).root.preorder := by
    simp [agendaNodes]
  have fits : ∀ node ∈ agendaNodes [(.read .prose, (Source.ofTree id tree).root)],
      node.fitsKind = true := fun node mem =>
    Node.fitsKind_of_isShaped (Node.isShaped_numbered id shaped 0) (agenda_eq ▸ mem)
  have of_texts : ∀ node ∈ agendaNodes [(.read .prose, (Source.ofTree id tree).root)],
      (Source.ofTree id tree).isText node.span = decide (node.kind = .text) := by
    intro node mem
    obtain ⟨placed, found, rfl, -⟩ := Source.find?_span (agenda_eq ▸ mem)
    simp [Source.isText, found]
  rw [convert, Collector.flatMap_owned_collect, Event.owned, walk.emissions_eq,
    List.filterMap_map, List.filter_filterMap]
  calc
    _ = (marksFrom (Source.ofTree id tree).isText
          (events rules .prose (Source.ofTree id tree).root)).filterMap
          (Mark.owned? (some id) language) := by
      rw [marksFrom, List.filterMap_filter]
      apply List.filterMap_congr
      intro mark _
      cases origin_eq : mark.origin with
      | none => simp [Mark.owned?, Mark.comesFrom, origin_eq]
      | some origin =>
          by_cases is_owned : origin.isOwned (some id) = true <;>
            simp [Mark.owned?, Mark.comesFrom, origin_eq, is_owned, Option.filter_some]
    _ = ((textLeaves .prose (Source.ofTree id tree).root).flatMap Node.verbatim).filterMap
          (Mark.owned? (some id) language) := by
      rw [walk.marksFrom_eq fits of_texts, List.flatMap_singleton]
      rfl
    _ = _ := by
      rw [List.filterMap_flatMap]
      apply List.flatMap_congr
      intro leaf mem
      have leaf_mem : leaf ∈ (Source.ofTree id tree).root.preorder :=
        (proseNodes_sublist .prose _).subset (List.mem_filter.1 mem).1
      exact Node.filterMap_owned?_verbatim (Node.span_of_mem_preorder_numbered id leaf_mem) language

/-- No two characters of text leaves stand at the same octets of the same leaf. -/
theorem nodup_origins_textLeaves :
    (((textLeaves .prose (Source.ofTree id tree).root).flatMap
      (Node.ownedChars language)).map OwnedChar.origin).Nodup := by
  have leaves_sublist : (textLeaves .prose (Source.ofTree id tree).root).Sublist
      (Source.ofTree id tree).root.preorder :=
    List.filter_sublist.trans (proseNodes_sublist .prose _)
  have spans_nodup : ((textLeaves .prose (Source.ofTree id tree).root).map Node.span).Nodup :=
    (Node.nodup_spans_numbered id tree 0).sublist (leaves_sublist.map Node.span)
  rw [List.map_flatMap, List.nodup_flatMap]
  refine ⟨fun leaf _ => leaf.nodup_origins_ownedChars language, ?_⟩
  refine (List.pairwise_map.1 spans_nodup).imp fun {leaf other} differ => ?_
  intro origin leaf_mem other_mem
  obtain ⟨owned, owned_mem, rfl⟩ := List.mem_map.1 leaf_mem
  obtain ⟨twin, twin_mem, same⟩ := List.mem_map.1 other_mem
  refine differ ?_
  rw [← (Node.of_mem_ownedChars owned_mem).1, ← (Node.of_mem_ownedChars twin_mem).1, same]

/-- The position map is exact.  A character in an exact run of a chunk resolves to octets of a node
that are the written form of that character in the source; and the characters of the chunks that
come from text leaves are, in order, the characters of the text leaves in prose position, no two of
them with the same octets of the same leaf. -/
theorem exact_convert (shaped : tree.isShaped = true) :
    (∀ chunk ∈ convert rules limit (some id) language (Source.ofTree id tree).root,
      ∀ index entry origin, chunk.map.entryAt? index = some entry → entry.exact = true →
        chunk.map.resolve index = .ok (some origin) →
          ∃ placed char, (Source.ofTree id tree).find? origin.span = some placed ∧
            0 ≤ origin.start ∧
            (placed.start : Int) + origin.start < placed.start + origin.stop ∧
            (placed.start : Int) + origin.stop ≤ placed.stop ∧
            Slice.item? chunk.stream index = some char ∧
            Utf8.decode?
                (Slice.between (Source.ofTree id tree).octets (placed.start + origin.start)
                  (placed.start + origin.stop)) = some [char]) ∧
      ((convert rules limit (some id) language (Source.ofTree id tree).root).flatMap
          (Chunk.owned (some id))).filter
          (fun owned => (Source.ofTree id tree).isText owned.origin.span) =
        (textLeaves .prose (Source.ofTree id tree).root).flatMap (Node.ownedChars language) ∧
      (((textLeaves .prose (Source.ofTree id tree).root).flatMap
        (Node.ownedChars language)).map OwnedChar.origin).Nodup := by
  refine ⟨fun chunk mem index entry origin holds exact_eq resolved => ?_, ?_, ?_⟩
  · exact exists_placed_of_exact rules limit language id tree shaped mem holds exact_eq resolved
  · exact filter_isText_owned_convert rules limit language id tree shaped
  · exact nodup_origins_textLeaves language id tree

end Source

theorem exact_convert_twoParagraphs :
    twoParagraphs.isShaped = true ∧
      (∃ chunk ∈ convert ⟨[], []⟩ 4 (some "main") "en-US" (Source.ofTree "main" twoParagraphs).root,
        chunk.map.entryAt? 3 = some ⟨0, 4, some ⟨some "main", 4⟩, 0, true, 6⟩ ∧
        chunk.map.resolve 3 = .ok (some ⟨⟨some "main", 4⟩, 4, 6⟩) ∧
        ∃ placed char, (Source.ofTree "main" twoParagraphs).find? ⟨some "main", 4⟩ = some placed ∧
          (placed.start : Int) + 6 ≤ placed.stop ∧ Slice.item? chunk.stream 3 = some char ∧
          Utf8.decode?
              (Slice.between (Source.ofTree "main" twoParagraphs).octets (placed.start + 4)
                (placed.start + 6)) = some [char]) ∧
      (((convert ⟨[], []⟩ 4 (some "main") "en-US" (Source.ofTree "main" twoParagraphs).root).flatMap
          (Chunk.owned (some "main"))).filter
          (fun owned => (Source.ofTree "main" twoParagraphs).isText owned.origin.span)).map
          OwnedChar.char = ['O', 'n', 'e', 'd', 'é', 'j', 'à'] := by
  obtain ⟨places, owned_eq, -⟩ :=
    exact_convert ⟨[], []⟩ 4 "en-US" "main" twoParagraphs (by decide)
  refine ⟨by decide, ?_, by rw [owned_eq]; decide⟩
  have mem := List.get_mem
    (convert ⟨[], []⟩ 4 (some "main") "en-US" (Source.ofTree "main" twoParagraphs).root)
    ⟨1, by decide⟩
  have holds : ((convert ⟨[], []⟩ 4 (some "main") "en-US"
      (Source.ofTree "main" twoParagraphs).root).get ⟨1, by decide⟩).map.entryAt? 3 =
        some ⟨0, 4, some ⟨some "main", 4⟩, 0, true, 6⟩ := by
    decide +kernel
  have resolved : ((convert ⟨[], []⟩ 4 (some "main") "en-US"
      (Source.ofTree "main" twoParagraphs).root).get ⟨1, by decide⟩).map.resolve 3 =
        .ok (some ⟨⟨some "main", 4⟩, 4, 6⟩) := by
    decide +kernel
  obtain ⟨placed, char, found, -, -, within, item, decoded⟩ :=
    places _ mem 3 _ _ holds rfl resolved
  exact ⟨_, mem, holds, resolved, placed, char, found, within, item, decoded⟩

end Markup
end ProseCheck
