import Mathlib.Data.List.Nodup
import ProseCheck.Proofs.Node.Tree
import ProseCheck.Source.Basic

/-!
# Numbers and places of nodes

The nodes of a source are numbered one after the other, parents first, so each span belongs to one
node and looking it up finds that node.  Each node is placed where its text stands in the text of
the source.
-/

namespace ProseCheck
namespace Node

section Numbers

variable (file : FileId)

mutual

/-- The nodes of a numbered tree carry neighbouring numbers, parents first. -/
theorem spans_numbered (first : Nat) :
    ∀ tree : Node, (tree.numbered file first).preorder.map span =
      (List.range' first tree.count).map fun (number : Nat) => ⟨some file, number⟩
  | ⟨kind, text, children, span⟩ => by
    rw [numbered, preorder, count, Nat.add_comm 1, List.range'_succ, List.map_cons, List.map_cons,
      spans_numberedAll (first + 1) children]

theorem spans_numberedAll (first : Nat) :
    ∀ nodes : List Node, (preorderOfAll (numberedAll file first nodes)).map span =
      (List.range' first (countAll nodes)).map fun (number : Nat) => ⟨some file, number⟩
  | [] => rfl
  | node :: rest => by
    rw [numberedAll, preorderOfAll, countAll, List.map_append, spans_numbered first node,
      spans_numberedAll (first + node.count) rest, ← List.map_append, List.range'_append_1]

end

theorem span_of_getElem?_preorder {tree node : Node} {first index : Nat}
    (found : (tree.numbered file first).preorder[index]? = some node) :
    node.span = ⟨some file, ((first + index : Nat) : Int)⟩ := by
  have span_eq : ((tree.numbered file first).preorder.map span)[index]? = some node.span := by
    rw [List.getElem?_map, found, Option.map_some]
  rw [spans_numbered, List.getElem?_map] at span_eq
  obtain ⟨number, number_eq, node_span⟩ := Option.map_eq_some_iff.1 span_eq
  obtain ⟨inside, rfl⟩ := List.getElem?_eq_some_iff.1 number_eq
  simp [← node_span]

/-- No two nodes of a numbered tree carry the same span. -/
theorem nodup_spans_numbered (tree : Node) (first : Nat) :
    ((tree.numbered file first).preorder.map span).Nodup := by
  rw [spans_numbered]
  refine List.Nodup.map ?_ List.nodup_range'
  intro number other same
  exact Int.ofNat_inj.1 (Span.mk.inj same).2

end Numbers

mutual

/-- The placed nodes are the nodes of the tree. -/
theorem map_node_place (start : Nat) (above : List Node) :
    ∀ tree : Node, (tree.place start above).map Placed.node = tree.preorder
  | ⟨kind, text, children, span⟩ => by
    rw [place, preorder, List.map_cons, map_node_placeAll]

theorem map_node_placeAll (start : Nat) (above : List Node) :
    ∀ nodes : List Node, (placeAll start above nodes).map Placed.node = preorderOfAll nodes
  | [] => rfl
  | node :: rest => by
    rw [placeAll, preorderOfAll, List.map_append, map_node_place start above node,
      map_node_placeAll (start + node.size) above rest]

end

/-- A node is placed where its text stands in a text that begins at an octet. -/
def StandsIn (start : Nat) (whole : Text) (placed : Placed) : Prop :=
  ∃ before after, whole = before ++ placed.node.fullText ++ after ∧
    placed.start = start + Utf8.size before ∧ placed.stop = placed.start + placed.node.size

/-- What stands in a part of a text stands in the whole. -/
theorem StandsIn.within {start : Nat} {part : Text} {placed : Placed} (front back : Text)
    (stands : StandsIn (start + Utf8.size front) part placed) :
    StandsIn start (front ++ part ++ back) placed := by
  obtain ⟨before, after, rfl, start_eq, stop_eq⟩ := stands
  refine ⟨front ++ before, after ++ back, by simp, ?_, stop_eq⟩
  rw [start_eq, Utf8.size_append, Nat.add_assoc]

mutual

/-- Each node of a tree is placed where its text stands. -/
theorem standsIn_place (start : Nat) (above : List Node) :
    ∀ tree : Node, ∀ placed ∈ tree.place start above, StandsIn start tree.fullText placed
  | ⟨kind, text, children, span⟩ => by
    intro placed mem
    rw [place] at mem
    rcases List.mem_cons.1 mem with rfl | mem
    · exact ⟨[], [], by simp, rfl, rfl⟩
    · have nonempty : children ≠ [] := by
        rintro rfl
        simp [placeAll] at mem
      rw [fullText_of_children nonempty]
      exact standsIn_placeAll start _ children placed mem

theorem standsIn_placeAll (start : Nat) (above : List Node) :
    ∀ nodes : List Node, ∀ placed ∈ placeAll start above nodes,
      StandsIn start (nodes.flatMap fullText) placed
  | [] => by simp [placeAll]
  | node :: rest => by
    intro placed mem
    rw [placeAll] at mem
    rw [List.flatMap_cons]
    rcases List.mem_append.1 mem with mem | mem
    · exact (standsIn_place start above node placed mem).within [] _
    · have stands := standsIn_placeAll (start + node.size) above rest placed mem
      simpa using stands.within node.fullText []

end

end Node

namespace Source

/-- A source is that of its tree. -/
theorem eq_ofTree (source : Source) : source = ofTree source.id source.tree := by
  obtain ⟨id, tree, root, text, placements, octets, lineStarts, rfl, rfl, rfl, rfl, rfl⟩ := source
  rfl

variable {id : FileId} {tree node : Node}

/-- The nodes of a source, each in its place. -/
def places (source : Source) : List Placed := source.root.place 0 []

theorem node_mem_of_mem_places {source : Source} {placed : Placed} (mem : placed ∈ source.places) :
    placed.node ∈ source.root.preorder := by
  rw [← Node.map_node_place 0 []]
  exact List.mem_map_of_mem mem

/-- The span of a placed node finds it. -/
theorem find?_of_mem_places {placed : Placed} (mem : placed ∈ (ofTree id tree).places) :
    (ofTree id tree).find? placed.node.span = some placed := by
  obtain ⟨index, found⟩ := List.getElem?_of_mem mem
  have node_found : ((ofTree id tree).root).preorder[index]? = some placed.node := by
    rw [← Node.map_node_place 0 [], List.getElem?_map]
    rw [places] at found
    rw [found, Option.map_some]
  have span_eq : placed.node.span = ⟨some id, ((0 + index : Nat) : Int)⟩ :=
    Node.span_of_getElem?_preorder id node_found
  rw [find?, if_pos (by simp [span_eq])]
  simpa [span_eq, ofTree, places] using found

/-- A placed node stands where its text stands. -/
theorem standsIn_of_mem_places {placed : Placed} (mem : placed ∈ (ofTree id tree).places) :
    Node.StandsIn 0 (ofTree id tree).text placed := by
  have text_eq : (ofTree id tree).root.fullText = (ofTree id tree).text :=
    Node.fullText_numbered id tree 0
  rw [← text_eq]
  exact Node.standsIn_place 0 [] (ofTree id tree).root placed mem

/-- The span of a node finds that node, placed where its text stands. -/
theorem find?_span (mem : node ∈ (ofTree id tree).root.preorder) :
    ∃ placed, (ofTree id tree).find? node.span = some placed ∧ placed.node = node ∧
      Node.StandsIn 0 (ofTree id tree).text placed := by
  rw [← Node.map_node_place 0 []] at mem
  obtain ⟨placed, placed_mem, rfl⟩ := List.mem_map.1 mem
  exact ⟨placed, find?_of_mem_places placed_mem, rfl, standsIn_of_mem_places placed_mem⟩

/-- What a span finds stands where its text stands. -/
theorem standsIn_of_find? {source : Source} {span : Span} {placed : Placed}
    (found : source.find? span = some placed) : Node.StandsIn 0 source.text placed := by
  rw [source.eq_ofTree] at found ⊢
  have placed_mem : placed ∈ (ofTree source.id source.tree).places := by
    rw [find?] at found
    split at found
    · exact List.mem_of_getElem? (by simpa [ofTree, places] using found)
    · contradiction
  exact standsIn_of_mem_places placed_mem

end Source
end ProseCheck
