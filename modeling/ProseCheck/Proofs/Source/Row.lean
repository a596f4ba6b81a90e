import ProseCheck.Proofs.Source.Numbering

/-!
# Nodes in a row

The span of a placed node finds it there, and its children are placed one after the other within
its octets.  Nodes that stand one after the other in a source therefore go on doing so when one of
them makes way for its children.
-/

namespace ProseCheck
namespace Node

mutual

/-- Where a node is placed, its children are placed from its start on. -/
theorem placeAll_subset_place (start : Nat) (above : List Node) :
    ∀ tree : Node, ∀ placed ∈ tree.place start above,
      placeAll placed.start placed.ancestors placed.node.children ⊆ tree.place start above
  | ⟨kind, text, children, span⟩ => by
    intro placed mem
    rw [place] at mem ⊢
    rcases List.mem_cons.1 mem with rfl | mem
    · exact List.subset_cons_self _ _
    · exact List.Subset.trans (placeAll_subset_placeAll start _ children placed mem)
        (List.subset_cons_self _ _)

theorem placeAll_subset_placeAll (start : Nat) (above : List Node) :
    ∀ nodes : List Node, ∀ placed ∈ placeAll start above nodes,
      placeAll placed.start placed.ancestors placed.node.children ⊆ placeAll start above nodes
  | [] => by simp [placeAll]
  | node :: rest => by
    intro placed mem
    rw [placeAll] at mem ⊢
    rcases List.mem_append.1 mem with mem | mem
    · exact List.Subset.trans (placeAll_subset_place start above node placed mem)
        (List.subset_append_left _ _)
    · exact List.Subset.trans (placeAll_subset_placeAll _ above rest placed mem)
        (List.subset_append_right _ _)

end

theorem mem_placeAll_cons (start : Nat) (above : List Node) (node : Node) (rest : List Node) :
    ⟨node, start, start + node.size, above⟩ ∈ placeAll start above (node :: rest) := by
  obtain ⟨kind, text, children, span⟩ := node
  rw [placeAll, place]
  exact List.mem_append_left _ List.mem_cons_self

/-- A node is placed behind the nodes in front of it. -/
theorem mem_placeAll_append (start : Nat) (above front : List Node) (node : Node)
    (back : List Node) :
    ⟨node, start + Utf8.size (front.flatMap fullText),
        start + Utf8.size (front.flatMap fullText) + node.size, above⟩ ∈
      placeAll start above (front ++ node :: back) := by
  induction front generalizing start with
  | nil => exact mem_placeAll_cons start above node back
  | cons first rest induction =>
      have later := induction (start + first.size)
      rw [List.cons_append, placeAll]
      refine List.mem_append_right _ ?_
      rwa [size, Nat.add_assoc, ← Utf8.size_append, ← List.flatMap_cons] at later

theorem size_of_children {node : Node} (nonempty : node.children ≠ []) :
    node.size = Utf8.size (node.children.flatMap fullText) := by
  rw [size, fullText_of_children nonempty]

end Node

namespace Source

/-- A child of the root is placed behind the children in front of it. -/
theorem mem_places_of_children {source : Source} {front back : List Node} {node : Node}
    (children_eq : source.root.children = front ++ node :: back) :
    ⟨node, Utf8.size (front.flatMap Node.fullText),
        Utf8.size (front.flatMap Node.fullText) + node.size, [source.root]⟩ ∈ source.places := by
  have mem := Node.mem_placeAll_append 0 [source.root] front node back
  rw [Nat.zero_add, ← children_eq] at mem
  have root_mem : ⟨source.root, 0, 0 + source.root.size, []⟩ ∈ source.places := by
    cases root_eq : source.root with
    | mk kind text children span =>
        rw [places, root_eq, Node.place]
        exact List.mem_cons_self
  exact Node.placeAll_subset_place 0 [] source.root _ root_mem mem

variable {id : FileId} {tree : Node}

theorem stop_of_mem_places {placed : Placed} (mem : placed ∈ (ofTree id tree).places) :
    placed.stop = placed.start + placed.node.size := by
  obtain ⟨-, -, -, -, stop_eq⟩ := standsIn_of_mem_places mem
  exact stop_eq

/-- Nodes of a source that stand one after the other, from an octet on. -/
inductive Row (source : Source) : Nat → List Node → Prop where
  | nil {start : Nat} : Row source start []
  | cons {start : Nat} {rest : List Node} {placed : Placed} :
      placed ∈ source.places →
      start ≤ placed.start →
      Row source placed.stop rest →
      Row source start (placed.node :: rest)

namespace Row

theorem mono {source : Source} {start earlier : Nat} {nodes : List Node}
    (row : Row source start nodes) (le_start : earlier ≤ start) : Row source earlier nodes := by
  cases row with
  | nil => exact .nil
  | cons mem start_le rest => exact .cons mem (Nat.le_trans le_start start_le) rest

/-- Nodes that are placed one after the other stand in a row with what comes behind them. -/
theorem of_placeAll {start stop : Nat} {above nodes rest : List Node}
    (placed : Node.placeAll start above nodes ⊆ (ofTree id tree).places)
    (fits : start + Utf8.size (nodes.flatMap Node.fullText) ≤ stop)
    (row : Row (ofTree id tree) stop rest) : Row (ofTree id tree) start (nodes ++ rest) := by
  induction nodes generalizing start with
  | nil =>
      refine row.mono ?_
      simpa using fits
  | cons node more induction =>
      have mem := placed (Node.mem_placeAll_cons start above node more)
      rw [Node.placeAll] at placed
      refine .cons mem (Nat.le_refl _) ?_
      refine induction (fun _ more_mem => placed (List.mem_append_right _ more_mem)) ?_
      rw [List.flatMap_cons, Utf8.size_append] at fits
      simp only [Node.size]
      omega

/-- A node makes way for its children. -/
theorem descend {start : Nat} {node : Node} {rest : List Node}
    (row : Row (ofTree id tree) start (node :: rest)) :
    Row (ofTree id tree) start (node.children ++ rest) := by
  cases row with
  | @cons _ _ placed mem start_le row =>
      have stop_eq := stop_of_mem_places mem
      have below := Node.placeAll_subset_place 0 [] (ofTree id tree).root placed mem
      refine Row.mono ?_ start_le
      -- Only where there are children is the text of the node made of theirs.
      by_cases childless : placed.node.children = []
      · rw [childless, List.nil_append]
        exact row.mono (by omega)
      · have fits : placed.start + Utf8.size (placed.node.children.flatMap Node.fullText) ≤
            placed.stop := by
          have size_eq := Node.size_of_children childless
          omega
        exact of_placeAll below fits row

/-- The tree of a source alone. -/
theorem root : Row (ofTree id tree) 0 [(ofTree id tree).root] := by
  have mem : ⟨(ofTree id tree).root, 0, 0 + (ofTree id tree).root.size, []⟩ ∈
      (ofTree id tree).places := by
    have listed := Node.mem_placeAll_cons 0 [] (ofTree id tree).root []
    simpa [Node.placeAll, places] using listed
  exact .cons mem (Nat.le_refl _) .nil

end Row
end Source
end ProseCheck
