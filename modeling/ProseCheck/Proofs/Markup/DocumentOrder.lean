import ProseCheck.Proofs.Markup.ProseNodes
import ProseCheck.Proofs.Source.Row

/-!
# Pieces in document order

Nodes that a walk shows do not stand within each other, and each piece of the walk shows a node
that stands behind those of the pieces before.  A text node is always shown by its own text.
-/

namespace ProseCheck

/-- A piece stands for a placed node; a text node is shown by its own text. -/
structure Piece.StandsFor (piece : Piece) (placed : Placed) : Prop where
  span_eq : piece.span? = some placed.node.span
  verbatim : placed.node.kind = .text →
    piece = .plain placed.node.text (some placed.node.span) 0

/-- Pieces that show nodes of a source, each behind those before it, from an octet on. -/
inductive Source.Shown (source : Source) : Nat → List Piece → Prop where
  | nil {start : Nat} : Shown source start []
  | nothing {start : Nat} {piece : Piece} {pieces : List Piece} :
      piece.span? = none →
      Shown source start pieces →
      Shown source start (piece :: pieces)
  | node {start : Nat} {piece : Piece} {pieces : List Piece} {placed : Placed} :
      placed ∈ source.places →
      piece.StandsFor placed →
      start ≤ placed.start →
      Shown source placed.stop pieces →
      Shown source start (piece :: pieces)

namespace Source.Shown

variable {source : Source} {start : Nat} {pieces : List Piece}

theorem mono (shown : source.Shown start pieces) {earlier : Nat} (le_start : earlier ≤ start) :
    source.Shown earlier pieces := by
  induction shown with
  | nil => exact .nil
  | nothing no_span shown induction => exact .nothing no_span (induction le_start)
  | node mem stands start_le shown => exact .node mem stands (Nat.le_trans le_start start_le) shown

/-- Pieces that are left out change nothing for the others. -/
theorem sublist {id : FileId} {tree : Node} (shown : (ofTree id tree).Shown start pieces)
    {part : List Piece} (sublist : part.Sublist pieces) : (ofTree id tree).Shown start part := by
  induction shown generalizing part with
  | nil =>
      obtain rfl := List.sublist_nil.1 sublist
      exact .nil
  | nothing no_span shown induction =>
      cases sublist with
      | cons _ part_sublist => exact induction part_sublist
      | cons_cons _ rest_sublist => exact .nothing no_span (induction rest_sublist)
  | @node start piece pieces placed mem stands start_le shown induction =>
      cases sublist with
      | cons _ part_sublist =>
          have stop_eq := stop_of_mem_places mem
          exact (induction part_sublist).mono (by omega)
      | cons_cons _ rest_sublist => exact .node mem stands start_le (induction rest_sublist)

end Source.Shown

namespace Markup

theorem standsFor_reveal (placed : Placed) :
    (Piece.plain placed.node.text (some placed.node.span) 0).StandsFor placed :=
  ⟨rfl, fun _ => rfl⟩

theorem standsFor_replace {placed : Placed} (no_text : placed.node.kind ≠ .text)
    (written substitute : Text) :
    (Piece.encoded written substitute (some placed.node.span)).StandsFor placed :=
  ⟨rfl, fun text => absurd text no_text⟩

/-- The pieces of a walk show nodes in the order of the document. -/
theorem Walk.shown {id : FileId} {tree : Node} {agenda : List (Role × Node)} {events : List Event}
    (walk : Walk agenda events) {start : Nat}
    (row : (Source.ofTree id tree).Row start (agenda.map Prod.snd)) :
    (Source.ofTree id tree).Shown start (Event.pieces events) := by
  -- The row of the agenda carries the induction: what is met next stands behind all that was met.
  induction walk generalizing start with
  | done => exact .nil
  | separator text walk induction => exact .nothing rfl (induction row)
  | @leaf agenda events node leaf walk induction =>
      rw [List.map_cons] at row
      cases row with
      | @cons _ _ placed mem start_le row =>
          have later := induction row
          rcases leafEvents_cases leaf placed.node.text placed.node.span with
            output | ⟨substitute, output⟩ | ⟨is_break, output⟩
          · rw [output]
            exact .node mem (standsFor_reveal placed) start_le later
          · have no_text : placed.node.kind ≠ .text := by
              intro text
              simp [text, leafEvents, reveal, replace] at output
            rw [output]
            exact .node mem (standsFor_replace no_text _ _) start_le later
          · rw [output]
            exact .node mem (standsFor_replace (by simp [is_break]) _ _) start_le later
  | conceal hidden childless walk induction =>
      rw [List.map_cons] at row
      cases row with
      | cons mem start_le row =>
          have stop_eq := Source.stop_of_mem_places mem
          exact .nothing rfl ((induction row).mono (by omega))
  | colon is_colon walk induction =>
      rw [List.map_cons] at row
      cases row with
      | cons mem start_le row => exact .node mem (standsFor_reveal _) start_le (induction row)
  | veil walk induction =>
      rw [List.map_cons] at row
      cases row with
      | cons mem start_le row =>
          have stop_eq := Source.stop_of_mem_places mem
          exact .nothing rfl ((induction row).mono (by omega))
  | @placeholder agenda events position node text veiled walk induction =>
      rw [List.map_cons] at row
      cases row with
      | @cons _ _ placed mem start_le row =>
          have later := induction row
          have no_text : placed.node.kind ≠ .text := by
            intro text
            simp [text, Kind.isVeiled] at veiled
          cases position with
          | prose => exact .node mem (standsFor_replace no_text _ _) start_le (.nothing rfl later)
          | hidden =>
              have stop_eq := Source.stop_of_mem_places mem
              exact .nothing rfl (later.mono (by omega))
  | @descend agenda events position node no_leaf no_veil container walk induction =>
      refine induction ?_
      rw [List.map_append, map_snd_roles]
      rw [List.map_cons] at row
      exact row.descend

/-- The pieces of a conversion show the nodes of the tree in the order of the document. -/
theorem shown_events (rules : Rules) (id : FileId) (tree : Node) :
    (Source.ofTree id tree).Shown 0
      (Event.pieces (events rules .prose (Source.ofTree id tree).root)) := by
  have walk := walk_events rules .prose (Source.ofTree id tree).root .done
  rw [List.append_nil] at walk
  exact walk.shown Source.Row.root

/-- So do the pieces of each stretch of it. -/
theorem shown_of_mem_stretches {rules : Rules} {limit : Int} {language : String} {id : FileId}
    {tree : Node} {stretch : Stretch}
    (mem : stretch ∈ Collector.stretches limit language
      (events rules .prose (Source.ofTree id tree).root)) :
    (Source.ofTree id tree).Shown 0 (Event.pieces stretch.events) := by
  have shown := shown_events rules id tree
  rw [← Collector.flatMap_pieces_stretches limit language] at shown
  have part := (List.singleton_sublist.2 mem).flatMap fun stretch => Event.pieces stretch.events
  rw [List.flatMap_singleton] at part
  exact shown.sublist part

end Markup
end ProseCheck
