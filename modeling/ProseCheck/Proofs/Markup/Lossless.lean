import ProseCheck.Proofs.Chunk.Ownership
import ProseCheck.Proofs.Markup.Boundary
import ProseCheck.Source.Basic

/-!
# Lossless conversion

Every leaf of a tree lands in one segment of its conversion, and neighbouring leaves land in the
same segment or in neighbouring ones.  The chunks of a conversion are therefore written as the
source text; only the last one may be left out, namely if no character of it comes from a node.
-/

namespace ProseCheck

/-- Segments each of which is written as a group of neighbouring leaves, group after group. -/
inductive Gathers : List Segment → List Node → Prop where
  | nil : Gathers [] []
  | cons {segments : List Segment} {leaves : List Node} {segment : Segment} (group : List Node) :
      segment.written = group.flatMap Node.text →
      Gathers segments leaves →
      Gathers (segment :: segments) (group ++ leaves)

namespace Gathers

variable {segments : List Segment} {leaves : List Node}

theorem flatMap_written (gathers : Gathers segments leaves) :
    segments.flatMap Segment.written = leaves.flatMap Node.text := by
  induction gathers with
  | nil => rfl
  | cons group written_eq gathers induction =>
      rw [List.flatMap_cons, List.flatMap_append, written_eq, induction]

/-- A segment that is written as a node gathers the leaves of the node. -/
theorem node (gathers : Gathers segments leaves) {segment : Segment} {node : Node}
    (written_eq : segment.written = node.fullText) :
    Gathers (segment :: segments) (node.writtenLeaves ++ leaves) :=
  .cons node.writtenLeaves (by rw [written_eq, Node.flatMap_text_writtenLeaves]) gathers

theorem append (gathers : Gathers segments leaves) {more : List Segment} {others : List Node}
    (more_gathers : Gathers more others) : Gathers (segments ++ more) (leaves ++ others) := by
  induction gathers with
  | nil => exact more_gathers
  | cons group written_eq gathers induction =>
      rw [List.append_assoc]
      exact .cons group written_eq induction

theorem split {left right : List Segment} (gathers : Gathers (left ++ right) leaves) :
    ∃ before after, leaves = before ++ after ∧ Gathers left before ∧ Gathers right after := by
  induction left generalizing leaves with
  | nil => exact ⟨[], leaves, rfl, .nil, gathers⟩
  | cons segment left induction =>
      cases gathers with
      | cons group written_eq gathers =>
          obtain ⟨before, after, rfl, left_gathers, right_gathers⟩ := induction gathers
          exact ⟨group ++ before, after, by rw [List.append_assoc],
            .cons group written_eq left_gathers, right_gathers⟩

theorem place {segment : Segment} (gathers : Gathers (segment :: segments) leaves) :
    Gathers (segment.place segments) leaves := by
  cases segments with
  | nil => exact gathers
  | cons next rest =>
      rw [Segment.place]
      split
      · cases gathers with
        | cons first first_eq gathers =>
            cases gathers with
            | cons second second_eq gathers =>
                rw [← List.append_assoc]
                exact .cons _ (by simp [Segment.join, first_eq, second_eq]) gathers
      · exact gathers

/-- Joining neighbours of one kind gathers the same leaves. -/
theorem merge (gathers : Gathers segments leaves) : Gathers (Segment.merge segments) leaves := by
  induction gathers with
  | nil => exact .nil
  | cons group written_eq gathers induction => exact (Gathers.cons group written_eq induction).place

/-- Joining neighbours within parts gathers the same leaves. -/
theorem merge_parts {parts : List (List Segment)} (gathers : Gathers parts.flatten leaves) :
    Gathers (parts.flatMap Segment.merge) leaves := by
  induction parts generalizing leaves with
  | nil => exact gathers
  | cons part rest induction =>
      obtain ⟨before, after, rfl, part_gathers, rest_gathers⟩ := gathers.split
      exact part_gathers.merge.append (induction rest_gathers)

end Gathers

namespace Markup

/-- The segments of a walk gather the leaves that it meets. -/
theorem Walk.gathers {agenda : List (Role × Node)} {events : List Event}
    (walk : Walk agenda events) (fits : ∀ node ∈ agendaNodes agenda, node.fitsKind = true) :
    Gathers ((Event.pieces events).map Piece.segment)
      ((agenda.map Prod.snd).flatMap Node.writtenLeaves) := by
  induction walk with
  | done => exact .nil
  | separator text walk induction => exact .cons [] rfl (induction fits)
  | @leaf agenda events node leaf walk induction =>
      have later := induction fun inner mem => fits inner (tail_subset_agendaNodes mem)
      have childless := Node.childless_of_fitsKind (fits node head_mem_agendaNodes) (by simp [leaf])
      have text_eq := (Node.fullText_of_childless childless).symm
      rcases leafEvents_cases leaf node.text node.span with
        output | ⟨substitute, output⟩ | ⟨-, output⟩
      · rw [output]
        exact later.node text_eq
      · rw [output]
        exact later.node text_eq
      · rw [output]
        exact later.node text_eq
  | @conceal agenda events position node hidden childless walk induction =>
      have later := induction fun inner mem => fits inner (tail_subset_agendaNodes mem)
      refine later.node (Node.fullText_of_childless ?_).symm
      cases leaf : node.kind.isProseLeaf with
      | false => exact childless leaf
      | true => exact Node.childless_of_fitsKind (fits node head_mem_agendaNodes) (by simp [leaf])
  | @colon agenda events node is_colon walk induction =>
      have later := induction fun inner mem => fits inner (tail_subset_agendaNodes mem)
      have childless :=
        Node.childless_of_fitsKind (fits node head_mem_agendaNodes) (by simp [is_colon])
      exact later.node (Node.fullText_of_childless childless).symm
  | veil walk induction =>
      have later := induction fun inner mem => fits inner (tail_subset_agendaNodes mem)
      exact later.node rfl
  | @placeholder agenda events position node text veiled walk induction =>
      have later := induction fun inner mem => fits inner (tail_subset_agendaNodes mem)
      cases position
      · exact .cons [] rfl (later.node rfl)
      · exact later.node rfl
  | @descend agenda events position node no_leaf no_veil container walk induction =>
      have below := induction fun inner mem => fits inner (roles_subset_agendaNodes mem)
      rw [List.map_append, map_snd_roles, List.flatMap_append] at below
      rwa [List.map_cons, List.flatMap_cons,
        Node.writtenLeaves_of_children (fits node head_mem_agendaNodes) container]

/-- The segments of all finished chunks gather the leaves of the tree. -/
theorem gathers_finished (rules : Rules) (limit : Int) (language : String) {tree : Node}
    (shaped : tree.isShaped = true) :
    Gathers ((Collector.finished limit language (events rules .prose tree)).flatMap Chunk.segments)
      tree.writtenLeaves := by
  have walk := walk_events rules .prose tree .done
  rw [List.append_nil] at walk
  have gathers := walk.gathers fun node mem =>
    Node.fitsKind_of_isShaped shaped (by simpa [agendaNodes] using mem)
  rw [List.map_singleton, List.flatMap_singleton] at gathers
  rw [← Collector.flatMap_pieces_stretches limit language, List.map_flatMap,
    List.flatMap_def] at gathers
  have merged := gathers.merge_parts
  rw [List.flatMap_map] at merged
  simpa [Collector.finished, List.flatMap_map, Stretch.chunk, Stretch.draft, Draft.chunk,
    Piece.segments] using merged

/-- Characters of finished chunks come from nodes of the tree. -/
theorem exists_node_of_reading {rules : Rules} {limit : Int} {language : String} {tree : Node}
    {chunk : Chunk} (mem : chunk ∈ Collector.finished limit language (events rules .prose tree))
    {char : Char} {origin : Origin} (reading : (char, .ok (some origin)) ∈ chunk.map.readings) :
    ∃ node ∈ tree.preorder, node.span = origin.span := by
  obtain ⟨stretch, stretch_mem, rfl⟩ := List.mem_map.1 mem
  rw [stretch.readings_chunk] at reading
  obtain ⟨mark, mark_mem, mark_eq⟩ := List.mem_map.1 reading
  obtain ⟨piece, piece_mem, mark_mem⟩ := List.mem_flatMap.1 mark_mem
  have origin_eq : mark.origin = some origin := by simpa using (Prod.mk.inj mark_eq).2
  have span_eq : piece.span? = some origin.span := by
    rw [← Piece.span_of_mem_marks mark_mem, origin_eq]
    rfl
  refine (shows_events rules .prose tree piece ?_).exists_node span_eq
  rw [← Collector.flatMap_pieces_stretches limit language]
  exact List.mem_flatMap.2 ⟨stretch, stretch_mem, piece_mem⟩

section Source

variable (rules : Rules) (limit : Int) (language : String) (id : FileId) (tree : Node)

/-- Characters of the finished chunks of a source belong to its file. -/
theorem isOwned_of_reading {chunk : Chunk}
    (mem : chunk ∈
      Collector.finished limit language (events rules .prose (Source.ofTree id tree).root))
    {char : Char} {origin : Origin} (reading : (char, .ok (some origin)) ∈ chunk.map.readings) :
    origin.isOwned (some id) = true := by
  obtain ⟨node, node_mem, span_eq⟩ := exists_node_of_reading mem reading
  rw [Origin.isOwned, ← span_eq, Node.span_of_mem_preorder_numbered id node_mem, beq_self_eq_true]

/-- A chunk of a source that another chunk follows holds a character of the file. -/
theorem owned_ne_nil_of_next {front back : List Stretch} {stretch next : Stretch}
    (split :
      Collector.stretches limit language (events rules .prose (Source.ofTree id tree).root) =
        front ++ stretch :: next :: back) :
    stretch.chunk.owned (some id) ≠ [] := by
  obtain ⟨-, node, -, -, -, ends⟩ := taken_of_next split
  have reading : ('\n', .ok (some ⟨node.span, 0, Utf8.size node.text⟩)) ∈
      stretch.chunk.map.readings :=
    ends.subset (by simp [breakReadings, paragraph])
  have mem : stretch.chunk ∈
      Collector.finished limit language (events rules .prose (Source.ofTree id tree).root) :=
    List.mem_map_of_mem (by simp [split])
  have owned := isOwned_of_reading rules limit language id tree mem reading
  exact Chunk.owned_ne_nil_iff.2 ⟨_, _, reading, owned⟩

/-- The chunks that end before the last one are kept, and the last one is kept if and only if a
character of it comes from a node. -/
theorem convert_cases {earlier : List Chunk} {last : Chunk}
    (finished_eq :
      Collector.finished limit language (events rules .prose (Source.ofTree id tree).root) =
        earlier ++ [last]) :
    convert rules limit (some id) language (Source.ofTree id tree).root = earlier ++ [last] ∧
        (∃ char origin, (char, .ok (some origin)) ∈ last.map.readings) ∨
      convert rules limit (some id) language (Source.ofTree id tree).root = earlier ∧
        ∀ reading ∈ last.map.readings, reading.2 = .ok none := by
  obtain ⟨front, back, stretches_eq, rfl, back_eq⟩ := List.map_eq_append_iff.1 finished_eq
  obtain ⟨stretch, none_after, rfl, rfl, after_eq⟩ := List.map_eq_cons_iff.1 back_eq
  obtain rfl := List.map_eq_nil_iff.1 after_eq
  have earlier_kept : ∀ chunk ∈ front.map Stretch.chunk,
      (!(chunk.owned (some id)).isEmpty) = true := by
    intro chunk mem
    obtain ⟨earlier, earlier_mem, rfl⟩ := List.mem_map.1 mem
    obtain ⟨before, between, rfl⟩ := List.append_of_mem earlier_mem
    obtain ⟨next, later, later_eq⟩ : ∃ next later, between ++ [stretch] = next :: later :=
      List.exists_cons_of_ne_nil (by simp)
    rw [List.append_assoc, List.cons_append, later_eq] at stretches_eq
    simpa using owned_ne_nil_of_next rules limit language id tree stretches_eq
  rw [convert, Collector.collect_eq_filter_finished, finished_eq, List.filter_append,
    List.filter_eq_self.2 earlier_kept]
  by_cases last_owned : stretch.chunk.owned (some id) = []
  · refine .inr ⟨by simp [last_owned], fun reading mem => ?_⟩
    have last_mem : stretch.chunk ∈
        Collector.finished limit language (events rules .prose (Source.ofTree id tree).root) := by
      simp [finished_eq]
    rw [stretch.readings_chunk] at mem
    obtain ⟨mark, mark_mem, rfl⟩ := List.mem_map.1 mem
    cases origin_eq : mark.origin with
    | none => rfl
    | some origin =>
        have reading : (mark.char, .ok (some origin)) ∈ stretch.chunk.map.readings := by
          rw [stretch.readings_chunk, ← origin_eq]
          exact mem
        have owned := isOwned_of_reading rules limit language id tree last_mem reading
        exact absurd last_owned (Chunk.owned_ne_nil_iff.2 ⟨_, _, reading, owned⟩)
  · obtain ⟨char, origin, reading, -⟩ := Chunk.owned_ne_nil_iff.1 last_owned
    exact .inl ⟨by simp [last_owned], char, origin, reading⟩

/-- Conversion is lossless.  The chunks of a source are written as its text, but for the last
finished chunk if no character of that comes from a node; every chunk before it is kept.  Each
segment of the finished chunks is written as a group of neighbouring leaves, and these groups are
all leaves of the tree in order. -/
theorem written_convert (shaped : tree.isShaped = true) :
    ∃ earlier last missing,
      Collector.finished limit language (events rules .prose (Source.ofTree id tree).root) =
          earlier ++ [last] ∧
        (Source.ofTree id tree).text =
          (convert rules limit (some id) language (Source.ofTree id tree).root).flatMap
            Chunk.written ++ missing ∧
        (convert rules limit (some id) language (Source.ofTree id tree).root = earlier ++ [last] ∧
            missing = [] ∧ (∃ char origin, (char, .ok (some origin)) ∈ last.map.readings) ∨
          convert rules limit (some id) language (Source.ofTree id tree).root = earlier ∧
            missing = last.written ∧ ∀ reading ∈ last.map.readings, reading.2 = .ok none) ∧
        Gathers ((earlier ++ [last]).flatMap Chunk.segments)
          (Source.ofTree id tree).root.writtenLeaves := by
  obtain ⟨front, final, stretches_eq, -⟩ := Collector.exists_last_stretchesFrom limit language []
    (events rules .prose (Source.ofTree id tree).root)
  have finished_eq :
      Collector.finished limit language (events rules .prose (Source.ofTree id tree).root) =
        front.map Stretch.chunk ++ [final.chunk] := by
    rw [Collector.finished, Collector.stretches, stretches_eq, List.map_append, List.map_singleton]
  have gathers := gathers_finished rules limit language (Node.isShaped_numbered id shaped 0)
  have text_eq : (Source.ofTree id tree).text =
      (front.map Stretch.chunk ++ [final.chunk]).flatMap Chunk.written := by
    rw [← finished_eq, Source.ofTree_text, ← Node.fullText_numbered id tree 0,
      ← Node.flatMap_text_writtenLeaves, ← gathers.flatMap_written, List.flatMap_assoc]
    rfl
  have segments_gather := finished_eq ▸ gathers
  rcases convert_cases rules limit language id tree finished_eq with
    ⟨kept, reading⟩ | ⟨kept, unowned⟩
  · refine ⟨_, _, [], finished_eq, ?_, .inl ⟨kept, rfl, reading⟩, segments_gather⟩
    rw [kept, List.append_nil, text_eq]
  · refine ⟨_, _, final.chunk.written, finished_eq, ?_, .inr ⟨kept, rfl, unowned⟩, segments_gather⟩
    rw [kept, text_eq, List.flatMap_append, List.flatMap_singleton]

end Source

theorem written_convert_twoParagraphs :
    twoParagraphs.isShaped = true ∧
      ∃ earlier last missing,
        Collector.finished 4 "en-US"
            (events ⟨[], []⟩ .prose (Source.ofTree "main" twoParagraphs).root) =
            earlier ++ [last] ∧
          (Source.ofTree "main" twoParagraphs).text =
            (convert ⟨[], []⟩ 4 (some "main") "en-US"
              (Source.ofTree "main" twoParagraphs).root).flatMap Chunk.written ++ missing ∧
          (convert ⟨[], []⟩ 4 (some "main") "en-US" (Source.ofTree "main" twoParagraphs).root =
              earlier ++ [last] ∧
              missing = [] ∧ (∃ char origin, (char, .ok (some origin)) ∈ last.map.readings) ∨
            convert ⟨[], []⟩ 4 (some "main") "en-US" (Source.ofTree "main" twoParagraphs).root =
              earlier ∧
              missing = last.written ∧ ∀ reading ∈ last.map.readings, reading.2 = .ok none) ∧
          Gathers ((earlier ++ [last]).flatMap Chunk.segments)
            (Source.ofTree "main" twoParagraphs).root.writtenLeaves :=
  ⟨by decide, written_convert ⟨[], []⟩ 4 "en-US" "main" twoParagraphs (by decide)⟩

end Markup
end ProseCheck
