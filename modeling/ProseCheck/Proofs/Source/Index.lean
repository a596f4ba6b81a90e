import ProseCheck.Proofs.Source.Line
import ProseCheck.Proofs.Source.Row
import ProseCheck.Proofs.World

/-!
# The index of spans

Numbering a tree and placing its nodes go through it side by side.  A span of the file therefore
finds the node of its number, in the order parents first, and no other span finds anything.  What is
found stands where its text stands, its children tile its octets, and the nodes above it are its
path to the root.
-/

namespace ProseCheck
namespace Node

mutual

@[simp]
theorem length_preorder : ∀ tree : Node, tree.preorder.length = tree.count
  | ⟨kind, text, children, span⟩ => by
    rw [preorder, List.length_cons, length_preorderOfAll, count, Nat.add_comm]

@[simp]
theorem length_preorderOfAll : ∀ nodes : List Node, (preorderOfAll nodes).length = countAll nodes
  | [] => rfl
  | node :: rest => by
    rw [preorderOfAll, List.length_append, length_preorder, length_preorderOfAll, countAll]

end

section Numbers

variable (file : FileId)

mutual

/-- The nodes of a numbered tree are those of the tree, each numbered from its place on. -/
theorem preorder_numbered (first : Nat) :
    ∀ tree : Node, (tree.numbered file first).preorder =
      (tree.preorder.zipIdx first).map fun (node, number) => node.numbered file number
  | ⟨kind, text, children, span⟩ => by
    rw [numbered, preorder, preorder, List.zipIdx_cons, List.map_cons, preorderOfAll_numberedAll]
    rfl

theorem preorderOfAll_numberedAll (first : Nat) :
    ∀ nodes : List Node, preorderOfAll (numberedAll file first nodes) =
      ((preorderOfAll nodes).zipIdx first).map fun (node, number) => node.numbered file number
  | [] => rfl
  | node :: rest => by
    rw [numberedAll, preorderOfAll, preorderOfAll, List.zipIdx_append, List.map_append,
      preorder_numbered first node, length_preorder, preorderOfAll_numberedAll]

end

/-- The node at a place of a numbered tree is the one at that place of the tree. -/
theorem getElem?_preorder_numbered (tree : Node) (first index : Nat) :
    (tree.numbered file first).preorder[index]? =
      tree.preorder[index]?.map fun node => node.numbered file (first + index) := by
  rw [preorder_numbered, List.getElem?_map, List.getElem?_zipIdx, Option.map_map]
  rfl

end Numbers

/-- A path from a node of a tree up to its root. -/
inductive IsPath (root : Node) : List Node → Prop where
  | root : IsPath root [root]
  | child {node parent : Node} {above : List Node} :
      IsPath root (parent :: above) →
      node ∈ parent.children →
      IsPath root (node :: parent :: above)

mutual

/-- The nodes above a placed node lead on as those above the tree do. -/
theorem isPath_place {root : Node} (start : Nat) (above : List Node) :
    ∀ tree : Node, IsPath root (tree :: above) →
      ∀ placed ∈ tree.place start above, IsPath root placed.ancestors
  | ⟨kind, text, children, span⟩ => by
    intro path placed mem
    rw [place] at mem
    rcases List.mem_cons.1 mem with rfl | mem
    · exact path
    · exact isPath_placeAll start _ children (fun _ child_mem => .child path child_mem) placed mem

theorem isPath_placeAll {root : Node} (start : Nat) (above : List Node) :
    ∀ nodes : List Node, (∀ node ∈ nodes, IsPath root (node :: above)) →
      ∀ placed ∈ placeAll start above nodes, IsPath root placed.ancestors
  | [] => by simp [placeAll]
  | node :: rest => by
    intro paths placed mem
    rw [placeAll] at mem
    rcases List.mem_append.1 mem with mem | mem
    · exact isPath_place start above node (paths node List.mem_cons_self) placed mem
    · exact isPath_placeAll _ above rest
        (fun other other_mem => paths other (List.mem_cons_of_mem _ other_mem)) placed mem

end

/-- Placed nodes that fill a range one after the other. -/
inductive Tiles : Nat → Nat → List Placed → Prop where
  | nil {start : Nat} : Tiles start start []
  | cons {placed : Placed} {rest : List Placed} {stop : Nat} :
      placed.start ≤ placed.stop →
      Tiles placed.stop stop rest →
      Tiles placed.start stop (placed :: rest)

/-- Nodes that are placed one after the other fill the octets of their texts. -/
theorem exists_tiles_placeAll (start : Nat) (above nodes : List Node) :
    ∃ parts : List Placed, parts.map Placed.node = nodes ∧
      Tiles start (start + Utf8.size (nodes.flatMap fullText)) parts ∧
      ∀ part ∈ parts, part.above = above ∧ part ∈ placeAll start above nodes := by
  induction nodes generalizing start with
  | nil => exact ⟨[], rfl, .nil, by simp⟩
  | cons node rest induction =>
      obtain ⟨parts, nodes_eq, tiles, parts_mem⟩ := induction (start + node.size)
      refine ⟨⟨node, start, start + node.size, above⟩ :: parts, by simp [nodes_eq], ?_, ?_⟩
      · rw [size, Nat.add_assoc, ← Utf8.size_append, ← List.flatMap_cons] at tiles
        exact @Tiles.cons ⟨node, start, start + node.size, above⟩ _ _ (Nat.le_add_right _ _)
          tiles
      · intro part mem
        rcases List.mem_cons.1 mem with rfl | mem
        · exact ⟨rfl, mem_placeAll_cons start above node rest⟩
        · obtain ⟨above_eq, part_mem⟩ := parts_mem part mem
          rw [placeAll]
          exact ⟨above_eq, List.mem_append_right _ part_mem⟩

end Node

namespace Source

variable {id : FileId} {tree : Node}

/-- What a span finds is a placed node that carries the span. -/
theorem find?_eq_some_iff {span : Span} {placed : Placed} :
    (ofTree id tree).find? span = some placed ↔
      placed ∈ (ofTree id tree).places ∧ placed.node.span = span := by
  constructor
  · intro found
    rw [find?] at found
    split at found
    · rename_i fits
      have listed : (ofTree id tree).places[span.number.toNat]? = some placed := by
        simpa [ofTree, places] using found
      have node_listed : (tree.numbered id 0).preorder[span.number.toNat]? = some placed.node := by
        rw [← Node.map_node_place 0 [], List.getElem?_map]
        exact congrArg (Option.map Placed.node) listed
      refine ⟨List.mem_of_getElem? listed, ?_⟩
      obtain ⟨file, number⟩ := span
      obtain ⟨rfl, nonneg⟩ := fits
      rw [Node.span_of_getElem?_preorder id node_listed, Nat.zero_add,
        Int.toNat_of_nonneg nonneg]
      rfl
    · contradiction
  · rintro ⟨mem, rfl⟩
    exact find?_of_mem_places mem

theorem root_mem_places :
    ⟨(ofTree id tree).root, 0, (ofTree id tree).size, []⟩ ∈ (ofTree id tree).places := by
  have listed := Node.mem_placeAll_cons 0 [] (ofTree id tree).root []
  have size_eq : (ofTree id tree).size = 0 + (ofTree id tree).root.size := by
    rw [size_eq, Node.size, Nat.zero_add]
    exact congrArg Utf8.size (Node.fullText_numbered id tree 0).symm
  simpa [Node.placeAll, places, size_eq] using listed

/-- Every path to the root is that of a placed node. -/
theorem exists_placed_of_isPath {path : List Node}
    (leads : Node.IsPath (ofTree id tree).root path) :
    ∃ placed ∈ (ofTree id tree).places, placed.ancestors = path := by
  induction leads with
  | root => exact ⟨_, root_mem_places, rfl⟩
  | @child node parent above leads child_mem induction =>
      obtain ⟨placed, mem, ancestors_eq⟩ := induction
      obtain ⟨parent_eq, above_eq⟩ := List.cons.inj ancestors_eq
      obtain ⟨front, back, children_eq⟩ := List.append_of_mem child_mem
      have below := Node.placeAll_subset_place 0 [] (ofTree id tree).root placed mem
      rw [parent_eq, children_eq, ancestors_eq] at below
      exact ⟨_, below (Node.mem_placeAll_append _ _ front node back), rfl⟩

/-- The spans of a file find the nodes of its tree, each where it stands. -/
structure IsIndexed (source : Source) : Prop where
  /-- A span of the file finds the node of its number, in the order parents first. -/
  found : ∀ number node, source.tree.preorder[number]? = some node →
    ∃ placed, source.find? ⟨some source.id, (number : Nat)⟩ = some placed ∧
      placed.node = node.numbered source.id number
  /-- Another span finds nothing. -/
  missing : ∀ span : Span,
    (∀ number < source.tree.preorder.length, span ≠ ⟨some source.id, (number : Nat)⟩) →
      source.find? span = none
  /-- The octets of a node that is found hold its text. -/
  sliced : ∀ span placed, source.find? span = some placed →
    source.slice placed.start placed.stop = placed.node.fullText
  /-- The root stands for the whole file. -/
  whole : source.find? ⟨some source.id, 0⟩ = some ⟨source.root, 0, source.size, []⟩
  /-- The children of a node fill its octets in order, and their spans find them there. -/
  tiled : ∀ span placed, source.find? span = some placed → placed.node.children ≠ [] →
    ∃ parts : List Placed, parts.map Placed.node = placed.node.children ∧
      Node.Tiles placed.start placed.stop parts ∧
      ∀ part ∈ parts, part.above = placed.ancestors ∧ source.find? part.node.span = some part
  /-- A node that is found has one path to the root, which are the nodes above it. -/
  climbs : ∀ span placed, source.find? span = some placed → ∀ above : List Node,
    Node.IsPath source.root (placed.node :: above) ↔ above = placed.above

theorem isIndexed_ofTree (id : FileId) (tree : Node) : IsIndexed (ofTree id tree) := by
  constructor
  case found =>
    intro number node node_eq
    have numbered_eq : (tree.numbered id 0).preorder[number]? = some (node.numbered id number) := by
      rw [Node.getElem?_preorder_numbered, show tree.preorder[number]? = some node from node_eq,
        Option.map_some, Nat.zero_add]
    rw [← Node.map_node_place 0 [], List.getElem?_map] at numbered_eq
    obtain ⟨placed, listed, placed_eq⟩ := Option.map_eq_some_iff.1 numbered_eq
    refine ⟨placed, find?_eq_some_iff.2 ⟨List.mem_of_getElem? listed, ?_⟩, placed_eq⟩
    rw [placed_eq, Node.numbered_eq]
    rfl
  case missing =>
    intro span differs
    by_contra some_found
    obtain ⟨placed, found⟩ := Option.ne_none_iff_exists'.1 some_found
    obtain ⟨mem, span_eq⟩ := find?_eq_some_iff.1 found
    obtain ⟨number, node_eq⟩ := List.getElem?_of_mem (node_mem_of_mem_places mem)
    have inside : number < tree.preorder.length := by
      have := (List.getElem?_eq_some_iff.1 node_eq).1
      rw [show (ofTree id tree).root = tree.numbered id 0 from rfl, Node.preorder_numbered] at this
      simpa using this
    have carried := Node.span_of_getElem?_preorder id node_eq
    rw [Nat.zero_add, span_eq] at carried
    exact differs number inside carried
  case sliced =>
    intro span placed found
    obtain ⟨before, after, text_eq, start_eq, stop_eq⟩ := standsIn_of_find? found
    rw [stop_eq, start_eq, Nat.zero_add, Node.size, ← Utf8.size_append]
    exact slice_eq text_eq
  case whole =>
    exact find?_eq_some_iff.2 ⟨root_mem_places, congrArg Node.span (Node.numbered_eq id 0 tree)⟩
  case tiled =>
    intro span placed found has_children
    obtain ⟨mem, -⟩ := find?_eq_some_iff.1 found
    obtain ⟨parts, nodes_eq, tiles, parts_mem⟩ :=
      Node.exists_tiles_placeAll placed.start placed.ancestors placed.node.children
    rw [← Node.size_of_children has_children, ← stop_of_mem_places mem] at tiles
    refine ⟨parts, nodes_eq, tiles, fun part part_mem => ?_⟩
    obtain ⟨above_eq, listed⟩ := parts_mem part part_mem
    have below := Node.placeAll_subset_place 0 [] (ofTree id tree).root placed mem
    exact ⟨above_eq, find?_of_mem_places (below listed)⟩
  case climbs =>
    intro span placed found above
    obtain ⟨mem, span_eq⟩ := find?_eq_some_iff.1 found
    constructor
    · intro path
      obtain ⟨other, other_mem, ancestors_eq⟩ := exists_placed_of_isPath path
      obtain ⟨node_eq, above_eq⟩ := List.cons.inj ancestors_eq
      have other_found := find?_of_mem_places other_mem
      rw [node_eq, span_eq, found] at other_found
      rw [← above_eq, Option.some.inj other_found]
    · rintro rfl
      exact Node.isPath_place 0 [] _ .root placed mem

/-- The spans of every file find the nodes of its tree, and a world finds a node only in the source
whose name is the file of the span. -/
theorem exact_index :
    (∀ id tree, IsIndexed (ofTree id tree)) ∧
      ∀ (world : World) (span : Span) (placed : Placed), world.find? span = some placed ↔
        ∃ source ∈ world.sources, span.file = some source.id ∧
          source.find? span = some placed := by
  refine ⟨isIndexed_ofTree, fun world span placed => ?_⟩
  rw [World.find?]
  constructor
  · intro found
    split at found
    · contradiction
    · rename_i file file_eq
      obtain ⟨source, source_eq, source_found⟩ := Option.bind_eq_some_iff.1 found
      have id_eq : source.id = file := by simpa using List.find?_some source_eq
      exact ⟨source, List.mem_of_find?_eq_some source_eq, by rw [file_eq, id_eq], source_found⟩
  · rintro ⟨source, mem, file_eq, found⟩
    simp only [file_eq, World.source?_of_mem mem, Option.bind_some, found]

end Source
end ProseCheck
