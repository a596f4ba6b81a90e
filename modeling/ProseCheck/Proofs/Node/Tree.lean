import ProseCheck.Source.Placement

/-!
# Trees of nodes

Induction over trees, the functions on lists of trees as concatenations over their items, and the
shape of trees in the interchange format, which numbering keeps.
-/

namespace ProseCheck
namespace Kind

/-- Kinds of leaves that are prose in prose position. -/
def isProseLeaf : Kind → Bool
  | .text | .smartQuote | .space | .parbreak | .linebreak | .shorthand | .escape => true
  | _ => false

/-- Kinds of nodes that stand for their children alone, also where they have none. -/
def isContainer : Kind → Bool
  | .markup | .heading | .listItem | .enumItem | .termItem | .funcCall | .args
  | .contentBlock => true
  | _ => false

/-- Headings and list items. -/
def isItem : Kind → Bool
  | .heading | .listItem | .enumItem | .termItem => true
  | _ => false

/-- Kinds whose contents a placeholder stands for. -/
def isVeiled : Kind → Bool
  | .equation | .ref => true
  | _ => false

end Kind

namespace Node

/-- Whether a node has no children where its kind is one of leaves, and no text where its kind is
one of containers and it has no children either. -/
def fitsKind (node : Node) : Bool :=
  (!(node.kind.isProseLeaf || node.kind = .colon) || node.children.isEmpty) &&
    (!(node.kind.isContainer && node.children.isEmpty) || node.text.isEmpty)

/-- The shape of trees in the interchange format: every node fits its kind. -/
def isShaped (tree : Node) : Bool := tree.preorder.all fitsKind

/-- What holds of a node whenever it holds of its children holds of every node. -/
theorem treeInduction {motive : Node → Prop}
    (step : ∀ kind text children span,
      (∀ child ∈ children, motive child) → motive ⟨kind, text, children, span⟩) :
    ∀ node, motive node
  | ⟨kind, text, children, span⟩ =>
    step kind text children span fun child _ => treeInduction step child
decreasing_by
  have := List.sizeOf_lt_of_mem ‹child ∈ children›
  simp only [Node.mk.sizeOf_spec]
  omega

theorem leavesOfAll_eq_flatMap (nodes : List Node) : leavesOfAll nodes = nodes.flatMap leaves := by
  induction nodes with
  | nil => rfl
  | cons node rest induction => rw [leavesOfAll, induction, List.flatMap_cons]

theorem leaves_of_children {node : Node} (nonempty : node.children ≠ []) :
    node.leaves = node.children.flatMap leaves := by
  obtain ⟨kind, text, children, span⟩ := node
  cases children with
  | nil => contradiction
  | cons child rest => rw [leaves, leavesOfAll_eq_flatMap, List.flatMap_cons]

theorem leaves_of_childless {node : Node} (childless : node.children = []) :
    node.leaves = [node] := by
  obtain ⟨kind, text, children, span⟩ := node
  subst childless
  rw [leaves]

theorem fullText_of_childless {node : Node} (childless : node.children = []) :
    node.fullText = node.text := by
  simp [fullText, leaves_of_childless childless]

theorem fullText_of_children {node : Node} (nonempty : node.children ≠ []) :
    node.fullText = node.children.flatMap fullText := by
  rw [fullText, leaves_of_children nonempty, List.flatMap_assoc]
  rfl

theorem preorderOfAll_eq_flatMap (nodes : List Node) :
    preorderOfAll nodes = nodes.flatMap preorder := by
  induction nodes with
  | nil => rfl
  | cons node rest induction => rw [preorderOfAll, induction, List.flatMap_cons]

theorem preorder_eq (node : Node) : node.preorder = node :: node.children.flatMap preorder := by
  obtain ⟨kind, text, children, span⟩ := node
  rw [preorder, preorderOfAll_eq_flatMap]

theorem mem_preorder_self (node : Node) : node ∈ node.preorder := by
  rw [preorder_eq]
  exact List.mem_cons_self

theorem mem_preorder_of_child {node child inner : Node} (child_mem : child ∈ node.children)
    (mem : inner ∈ child.preorder) : inner ∈ node.preorder := by
  rw [preorder_eq]
  exact List.mem_cons_of_mem _ (List.mem_flatMap.2 ⟨child, child_mem, mem⟩)

theorem fitsKind_of_isShaped {tree node : Node} (shaped : tree.isShaped = true)
    (mem : node ∈ tree.preorder) : node.fitsKind = true :=
  List.all_eq_true.1 shaped node mem

theorem childless_of_fitsKind {node : Node} (fits : node.fitsKind = true)
    (leaf : (node.kind.isProseLeaf || node.kind = .colon) = true) : node.children = [] := by
  simpa [fitsKind, leaf] using (Bool.and_eq_true_iff.1 fits).1

theorem text_of_isContainer {node : Node} (fits : node.fitsKind = true)
    (container : node.kind.isContainer = true) (childless : node.children = []) :
    node.text = [] := by
  simpa [fitsKind, container, childless] using (Bool.and_eq_true_iff.1 fits).2

/-- Leaves under a node that carry text, in order. -/
def writtenLeaves (node : Node) : List Node := node.leaves.filter fun leaf => !leaf.text.isEmpty

theorem flatMap_text_writtenLeaves (node : Node) :
    node.writtenLeaves.flatMap text = node.fullText := by
  rw [writtenLeaves, fullText]
  induction node.leaves with
  | nil => rfl
  | cons leaf rest induction =>
      by_cases blank : leaf.text = [] <;> simp [blank, induction]

/-- A node that stands for its children carries the text of their leaves. -/
theorem writtenLeaves_of_children {node : Node} (fits : node.fitsKind = true)
    (container : node.children = [] → node.kind.isContainer = true) :
    node.writtenLeaves = node.children.flatMap writtenLeaves := by
  by_cases childless : node.children = []
  · have blank := text_of_isContainer fits (container childless) childless
    simp [writtenLeaves, leaves_of_childless childless, childless, blank]
  · rw [writtenLeaves, leaves_of_children childless, List.filter_flatMap]
    rfl

section Numbering

variable (file : FileId)

theorem numbered_eq (first : Nat) (node : Node) :
    node.numbered file first =
      ⟨node.kind, node.text, numberedAll file (first + 1) node.children, ⟨some file, first⟩⟩ := by
  cases node
  rfl

@[simp]
theorem numberedAll_eq_nil_iff (first : Nat) (nodes : List Node) :
    numberedAll file first nodes = [] ↔ nodes = [] := by
  cases nodes <;> simp [numberedAll]

theorem mem_numberedAll {first : Nat} {nodes : List Node} {node : Node}
    (mem : node ∈ numberedAll file first nodes) :
    ∃ old ∈ nodes, ∃ number, node = old.numbered file number := by
  induction nodes generalizing first with
  | nil => simp [numberedAll] at mem
  | cons old rest induction =>
      rcases List.mem_cons.1 mem with rfl | mem
      · exact ⟨old, List.mem_cons_self, first, rfl⟩
      · obtain ⟨other, other_mem, number, node_eq⟩ := induction mem
        exact ⟨other, List.mem_cons_of_mem _ other_mem, number, node_eq⟩

/-- Each node of a numbered tree is a node of the tree with a span of the file and numbered
children. -/
theorem exists_of_mem_preorder_numbered {tree node : Node} {first : Nat}
    (mem : node ∈ (tree.numbered file first).preorder) :
    ∃ old ∈ tree.preorder, ∃ number, node = old.numbered file number := by
  induction tree using treeInduction generalizing first with
  | step kind text children span induction =>
      rw [preorder_eq] at mem
      rcases List.mem_cons.1 mem with rfl | mem
      · exact ⟨_, mem_preorder_self _, first, rfl⟩
      · obtain ⟨child, child_mem, mem⟩ := List.mem_flatMap.1 mem
        rw [numbered_eq] at child_mem
        obtain ⟨old, old_mem, number, rfl⟩ := mem_numberedAll file child_mem
        obtain ⟨inner, inner_mem, node_eq⟩ := induction old old_mem mem
        exact ⟨inner, mem_preorder_of_child old_mem inner_mem, node_eq⟩

theorem span_of_mem_preorder_numbered {tree node : Node} {first : Nat}
    (mem : node ∈ (tree.numbered file first).preorder) : node.span.file = some file := by
  obtain ⟨old, -, number, rfl⟩ := exists_of_mem_preorder_numbered file mem
  rw [numbered_eq]

theorem isShaped_numbered {tree : Node} (shaped : tree.isShaped = true) (first : Nat) :
    (tree.numbered file first).isShaped = true := by
  refine List.all_eq_true.2 fun node mem => ?_
  obtain ⟨old, old_mem, number, rfl⟩ := exists_of_mem_preorder_numbered file mem
  have fits := List.all_eq_true.1 shaped old old_mem
  rw [numbered_eq]
  simpa [fitsKind, List.isEmpty_iff] using fits

theorem fullText_numbered (tree : Node) (first : Nat) :
    (tree.numbered file first).fullText = tree.fullText := by
  induction tree using treeInduction generalizing first with
  | step kind text children span induction =>
      by_cases childless : children = []
      · subst childless
        rw [numbered_eq, fullText_of_childless rfl, fullText_of_childless rfl]
      · rw [numbered_eq, fullText_of_children (by simpa using childless),
          fullText_of_children (by simpa using childless)]
        clear childless
        generalize first + 1 = number
        induction children generalizing number with
        | nil => rfl
        | cons child rest rest_induction =>
            rw [numberedAll, List.flatMap_cons, List.flatMap_cons, induction child (by simp),
              rest_induction (fun other mem => induction other (List.mem_cons_of_mem _ mem))]

end Numbering

end Node
end ProseCheck
