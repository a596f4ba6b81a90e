import ProseCheck.Proofs.Chunk.Renaming
import ProseCheck.Proofs.World

/-!
# Nodes of renamed files

A renamed document has the same trees and texts: its nodes stand in the same places, below the same
nodes, and a renamed span finds the renamed node.
-/

namespace ProseCheck

variable (names : Equiv.Perm FileId)

namespace Node

mutual

/-- The tree when files have other names. -/
def renamed : Node → Node
  | ⟨kind, text, children, span⟩ => ⟨kind, text, renamedAll children, span.renamed names⟩

/-- Trees when files have other names. -/
def renamedAll : List Node → List Node
  | [] => []
  | node :: rest => renamed node :: renamedAll rest

end

theorem renamedAll_eq_map (nodes : List Node) :
    renamedAll names nodes = nodes.map (renamed names) := by
  induction nodes with
  | nil => rfl
  | cons node rest induction => rw [renamedAll, induction, List.map_cons]

@[simp]
theorem kind_renamed (node : Node) : (node.renamed names).kind = node.kind := by
  obtain ⟨kind, text, children, span⟩ := node
  rfl

@[simp]
theorem text_renamed (node : Node) : (node.renamed names).text = node.text := by
  obtain ⟨kind, text, children, span⟩ := node
  rfl

theorem children_renamed (node : Node) :
    (node.renamed names).children = node.children.map (renamed names) := by
  obtain ⟨kind, text, children, span⟩ := node
  exact renamedAll_eq_map names children

theorem isEmpty_renamedAll (nodes : List Node) :
    (renamedAll names nodes).isEmpty = nodes.isEmpty := by
  cases nodes <;> rfl

mutual

theorem leaves_renamed :
    ∀ node : Node, (node.renamed names).leaves = node.leaves.map (renamed names)
  | ⟨kind, text, [], span⟩ => rfl
  | ⟨kind, text, child :: children, span⟩ => by
    rw [renamed, renamedAll, leaves, leaves, List.map_append, leaves_renamed child,
      leavesOfAll_renamed children]

theorem leavesOfAll_renamed :
    ∀ nodes : List Node,
      leavesOfAll (renamedAll names nodes) = (leavesOfAll nodes).map (renamed names)
  | [] => rfl
  | node :: rest => by
    rw [renamedAll, leavesOfAll, leavesOfAll, List.map_append, leaves_renamed node,
      leavesOfAll_renamed rest]

end

@[simp]
theorem fullText_renamed (node : Node) : (node.renamed names).fullText = node.fullText := by
  rw [fullText, fullText, leaves_renamed, List.flatMap_map]
  exact List.flatMap_congr fun leaf _ => leaf.text_renamed names

theorem leftmost_renamed :
    ∀ node : Node, (node.renamed names).leftmost = node.leftmost.renamed names
  | ⟨_, _, [], _⟩ => rfl
  | ⟨_, _, child :: _, _⟩ => leftmost_renamed child

theorem lastIdentifier_renamed (node : Node) :
    ((node.renamed names).leaves.filter fun leaf => leaf.kind = .ident).getLast? =
      (node.leaves.filter fun leaf => leaf.kind = .ident).getLast?.map (renamed names) := by
  have same_kind : (fun leaf : Node => decide (leaf.kind = .ident)) ∘ renamed names =
      fun leaf => decide (leaf.kind = .ident) := by
    funext leaf
    rw [Function.comp_apply, kind_renamed]
  rw [leaves_renamed, List.filter_map, List.getLast?_map, same_kind]

/-- A call is of the same name. -/
@[simp]
theorem callee?_renamed (node : Node) : (node.renamed names).callee? = node.callee? := by
  rw [callee?, callee?, kind_renamed, children_renamed]
  cases node.children with
  | nil => cases node.kind <;> rfl
  | cons callee rest =>
      cases node.kind <;> try rfl
      simp only [List.map_cons, kind_renamed, leftmost_renamed, text_renamed]
      by_cases access : callee.kind = .fieldAccess
      · rw [if_pos access, if_pos access, lastIdentifier_renamed]
        cases (callee.leaves.filter fun leaf => leaf.kind = .ident).getLast? <;> simp
      · rw [if_neg access, if_neg access]

/-- An argument has the same name. -/
@[simp]
theorem argumentName_renamed (node : Node) :
    (node.renamed names).argumentName = node.argumentName := by
  have same_kind : (fun child : Node => decide (child.kind = .ident)) ∘ renamed names =
      fun child => decide (child.kind = .ident) := by
    funext child
    rw [Function.comp_apply, kind_renamed]
  rw [argumentName, argumentName, children_renamed, List.find?_map, same_kind]
  cases node.children.find? fun child => child.kind = .ident with
  | none => rfl
  | some identifier => exact congrArg String.ofList (identifier.text_renamed names)

mutual

theorem count_renamed : ∀ node : Node, (node.renamed names).count = node.count
  | ⟨kind, text, children, span⟩ => by
    rw [renamed, count, count, countAll_renamed children]

theorem countAll_renamed : ∀ nodes : List Node, countAll (renamedAll names nodes) = countAll nodes
  | [] => rfl
  | node :: rest => by
    rw [renamedAll, countAll, countAll, count_renamed node, countAll_renamed rest]

end

mutual

/-- A tree numbered in a renamed file is the renamed tree that is numbered in the file. -/
theorem numbered_renamed (file : FileId) (first : Nat) :
    ∀ tree : Node, tree.numbered (names file) first = (tree.numbered file first).renamed names
  | ⟨kind, text, children, span⟩ => by
    rw [numbered, numbered, renamed, numberedAll_renamed file (first + 1) children]
    rfl

theorem numberedAll_renamed (file : FileId) (first : Nat) :
    ∀ nodes : List Node,
      numberedAll (names file) first nodes = renamedAll names (numberedAll file first nodes)
  | [] => rfl
  | node :: rest => by
    rw [numberedAll, numberedAll, renamedAll, numbered_renamed file first node,
      numberedAll_renamed file (first + node.count) rest]

end

theorem size_renamed (node : Node) : (node.renamed names).size = node.size := by
  rw [size, size, fullText_renamed]

end Node

/-- The placed node when files have other names. -/
def Placed.renamed (placed : Placed) : Placed :=
  ⟨placed.node.renamed names, placed.start, placed.stop, placed.above.map (Node.renamed names)⟩

namespace Node

mutual

theorem place_renamed (start : Nat) (above : List Node) :
    ∀ node : Node, (node.renamed names).place start (above.map (renamed names)) =
      (node.place start above).map (Placed.renamed names)
  | ⟨kind, text, children, span⟩ => by
    have size_eq := size_renamed names ⟨kind, text, children, span⟩
    have below := placeAll_renamed start (⟨kind, text, children, span⟩ :: above) children
    rw [renamed] at size_eq
    rw [List.map_cons, renamed] at below
    rw [renamed, place, place, size_eq, below, List.map_cons]
    rfl

theorem placeAll_renamed (start : Nat) (above : List Node) :
    ∀ nodes : List Node,
      placeAll start (above.map (renamed names)) (renamedAll names nodes) =
        (placeAll start above nodes).map (Placed.renamed names)
  | [] => rfl
  | node :: rest => by
    rw [renamedAll, placeAll, placeAll, List.map_append, place_renamed start above node,
      size_renamed, placeAll_renamed (start + node.size) above rest]

end

end Node

/-- The source when files have other names. -/
def Source.renamed (source : Source) : Source := .ofTree (names source.id) source.tree

namespace Source

@[simp]
theorem id_renamed (source : Source) : (source.renamed names).id = names source.id := rfl

theorem root_renamed (source : Source) :
    (source.renamed names).root = source.root.renamed names := by
  rw [source.root_eq]
  exact Node.numbered_renamed names source.id 0 source.tree

theorem placements_renamed (source : Source) :
    (source.renamed names).placements = source.placements.map (Placed.renamed names) := by
  have placed := Node.place_renamed names 0 [] source.root
  rw [List.map_nil] at placed
  rw [(source.renamed names).placements_eq, source.placements_eq, root_renamed, placed,
    List.map_toArray]

theorem find?_renamed (source : Source) (span : Span) :
    (source.renamed names).find? (span.renamed names) =
      (source.find? span).map (Placed.renamed names) := by
  have same_file : (span.file.map names = some (names source.id)) ↔
      span.file = some source.id := by
    rw [← Option.map_some, (Option.map_injective names.injective).eq_iff]
  rw [find?, find?, placements_renamed, id_renamed]
  simp only [Span.renamed, same_file, Array.getElem?_map]
  split <;> rfl

end Source

namespace World

/-- The world when files have other names; it has no pages. -/
def renamed (world : World) : World where
  sources := world.sources.map (Source.renamed names)
  main := world.main.map names
  pages := none
  distinct := by
    rw [List.map_map]
    have nodup := world.distinct.map names.injective
    rwa [List.map_map] at nodup
  main_mem := by
    intro file found
    obtain ⟨main, main_eq, rfl⟩ := Option.map_eq_some_iff.1 found
    rw [List.map_map]
    have mem := List.mem_map_of_mem (f := names) (world.main_mem main main_eq)
    rwa [List.map_map] at mem

@[simp]
theorem main_renamed (world : World) : (world.renamed names).main = world.main.map names := rfl

@[simp]
theorem pages_renamed (world : World) : (world.renamed names).pages = none := rfl

theorem files_renamed (world : World) : (world.renamed names).files = world.files.map names := by
  rw [files, files, renamed, List.map_map, List.map_map]
  rfl

theorem source?_renamed (world : World) (file : FileId) :
    (world.renamed names).source? (names file) =
      (world.source? file).map (Source.renamed names) := by
  have same_id : (fun source : Source => source.id == names file) ∘ Source.renamed names =
      fun source => source.id == file := by
    funext source
    rw [Function.comp_apply, Source.id_renamed, Bool.eq_iff_iff, beq_iff_eq, beq_iff_eq,
      names.injective.eq_iff]
  rw [source?, source?, renamed, List.find?_map, same_id]

/-- A renamed span finds the renamed node. -/
theorem find?_renamed (world : World) (span : Span) :
    (world.renamed names).find? (span.renamed names) =
      (world.find? span).map (Placed.renamed names) := by
  obtain ⟨file, number⟩ := span
  cases file with
  | none => rfl
  | some file =>
      have found := world.source?_renamed names file
      simp only [find?, Span.renamed, Option.map_some, found]
      cases world.source? file with
      | none => rfl
      | some source => exact source.find?_renamed names ⟨some file, number⟩

end World
end ProseCheck
