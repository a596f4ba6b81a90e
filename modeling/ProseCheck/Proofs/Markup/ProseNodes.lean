import Mathlib.Data.List.Flatten
import ProseCheck.Proofs.Chunk.Stretch
import ProseCheck.Proofs.Markup.Walk

/-!
# Nodes in prose position

The position of a node is that which its parent hands down to it.  A paragraph break of a
conversion stands right behind the separator of a break node in prose position, and every piece
shows a leaf of the tree, a substitute for one of its nodes, or nothing of it.
-/

namespace ProseCheck
namespace Markup

mutual

/-- Nodes in prose position, parents first, for a tree that is read in a position. -/
def proseNodes (position : Position) : Node → List Node
  | ⟨kind, text, children, span⟩ =>
    (if position = .prose then [⟨kind, text, children, span⟩] else [])
      ++ proseNodesBelow position kind children

/-- Nodes in prose position under a parent. -/
def proseNodesBelow (position : Position) (parent : Kind) : List Node → List Node
  | [] => []
  | child :: rest =>
    (match childPosition? position parent child.kind with
      | some position => proseNodes position child
      | none => []) ++ proseNodesBelow position parent rest

end

/-- Nodes in prose position for a node in a role. -/
def Role.proseNodes : Role → Node → List Node
  | .read position, node => Markup.proseNodes position node
  | .veiled, _ | .colon, _ => []

theorem proseNodesBelow_eq_flatMap (position : Position) (parent : Kind) (children : List Node) :
    proseNodesBelow position parent children =
      children.flatMap fun child =>
        ((childPosition? position parent child.kind).map fun position =>
          proseNodes position child).getD [] := by
  induction children with
  | nil => rfl
  | cons child rest induction =>
      rw [proseNodesBelow, induction, List.flatMap_cons]
      cases childPosition? position parent child.kind <;> rfl

theorem proseNodes_eq (position : Position) (node : Node) :
    proseNodes position node =
      (if position = .prose then [node] else []) ++
        proseNodesBelow position node.kind node.children := by
  cases node
  rfl

/-- Under a leaf or a veiled node nothing is in prose position. -/
theorem proseNodesBelow_eq_nil {position : Position} {parent : Kind}
    (shut : (parent.isProseLeaf || parent.isVeiled) = true) (children : List Node) :
    proseNodesBelow position parent children = [] := by
  rw [proseNodesBelow_eq_flatMap, List.flatMap_eq_nil_iff]
  intro child _
  simp [childPosition?, shut]

/-- Nodes in prose position are nodes of the tree in their order. -/
theorem proseNodes_sublist (position : Position) (tree : Node) :
    (proseNodes position tree).Sublist tree.preorder := by
  induction tree using Node.treeInduction generalizing position with
  | step kind text children span induction =>
      rw [proseNodes_eq, Node.preorder_eq, proseNodesBelow_eq_flatMap]
      have self_sublist : (if position = .prose then [(⟨kind, text, children, span⟩ : Node)]
          else []).Sublist [⟨kind, text, children, span⟩] := by
        split
        · exact .refl _
        · exact List.nil_sublist _
      refine self_sublist.append (List.Sublist.flatMap_right children fun child mem => ?_)
      cases childPosition? position kind child.kind with
      | none => exact List.nil_sublist _
      | some below => exact induction child mem below

/-- What a child has in prose position in its role, its parent has too. -/
theorem proseNodes_childRole_subset {position : Position} {parent : Kind} {afterMarker : Bool}
    {child node : Node}
    (mem : node ∈ (childRole position parent afterMarker child.kind).proseNodes child) :
    ∃ below, childPosition? position parent child.kind = some below ∧
      node ∈ proseNodes below child := by
  unfold childRole at mem
  split at mem
  · rename_i after_marker
    have space : child.kind = .space := by simpa using (Bool.and_eq_true_iff.1 after_marker).2
    rw [Role.proseNodes, proseNodes_eq, proseNodesBelow_eq_nil (by simp [space, Kind.isProseLeaf])]
      at mem
    simp at mem
  · split at mem
    · simp [Role.proseNodes] at mem
    · split at mem
      · rename_i below child_position
        exact ⟨below, child_position, mem⟩
      · simp [Role.proseNodes] at mem

/-- What the agenda of a node has in prose position, the node has too. -/
theorem mem_proseNodes_of_roles {position : Position} {node inner : Node}
    (mem : inner ∈ (roles position node).flatMap fun visit => visit.1.proseNodes visit.2) :
    inner ∈ proseNodes position node := by
  rw [proseNodes_eq]
  refine List.mem_append_right _ ?_
  rw [roles] at mem
  generalize node.children = children at mem ⊢
  generalize false = afterMarker at mem
  induction children generalizing afterMarker with
  | nil => simp [rolesFrom] at mem
  | cons child rest induction =>
      rw [rolesFrom, List.flatMap_cons] at mem
      rw [proseNodesBelow]
      rcases List.mem_append.1 mem with mem | mem
      · obtain ⟨below, child_position, inner_mem⟩ := proseNodes_childRole_subset mem
        exact List.mem_append_left _ (by simpa [child_position] using inner_mem)
      · exact List.mem_append_right _ (induction _ mem)

/-- A leaf of prose shows its text or a substitute, and a break also ends the paragraph. -/
theorem leafEvents_cases {kind : Kind} (leaf : kind.isProseLeaf = true) (text : Text)
    (span : Span) :
    leafEvents kind text span = [reveal text span] ∨
      (∃ substitute, leafEvents kind text span = [replace text substitute span]) ∨
      (kind = .parbreak ∧
        leafEvents kind text span = [replace text paragraph span, .paragraphBreak]) := by
  cases kind
  case text | smartQuote => exact .inl rfl
  case linebreak | shorthand | escape => exact .inr (.inl ⟨_, rfl⟩)
  case space =>
    rw [leafEvents, spaceEvent]
    split
    · exact .inr (.inl ⟨_, rfl⟩)
    · exact .inl rfl
  case parbreak => exact .inr (.inr ⟨rfl, rfl⟩)
  all_goals simp [Kind.isProseLeaf] at leaf

/-- Each paragraph break stands right behind the separator of one of the break nodes. -/
def BreaksFollow (nodes : List Node) (events : List Event) : Prop :=
  ∀ before after, events = before ++ .paragraphBreak :: after →
    ∃ front, ∃ node ∈ nodes, node.kind = .parbreak ∧
      before = front ++ [replace node.text paragraph node.span]

namespace BreaksFollow

variable {nodes : List Node} {events : List Event}

theorem nil : BreaksFollow nodes [] := by
  intro before after split
  simp at split

theorem mono (breaks : BreaksFollow nodes events) {more : List Node} (subset : nodes ⊆ more) :
    BreaksFollow more events := by
  intro before after split
  obtain ⟨front, node, mem, is_break, before_eq⟩ := breaks before after split
  exact ⟨front, node, subset mem, is_break, before_eq⟩

theorem piece (breaks : BreaksFollow nodes events) (piece : Piece) :
    BreaksFollow nodes (.piece piece :: events) := by
  intro before after split
  cases before with
  | nil => simp at split
  | cons first before =>
      obtain ⟨rfl, rest_split⟩ := List.cons.inj split
      obtain ⟨front, node, mem, is_break, rfl⟩ := breaks before after rest_split
      exact ⟨.piece piece :: front, node, mem, is_break, rfl⟩

theorem parbreak (breaks : BreaksFollow nodes events) {node : Node}
    (is_break : node.kind = .parbreak) (mem : node ∈ nodes) :
    BreaksFollow nodes
      (replace node.text paragraph node.span :: .paragraphBreak :: events) := by
  intro before after split
  rcases before with _ | ⟨first, _ | ⟨second, before⟩⟩
  · simp [replace] at split
  · obtain ⟨rfl, -⟩ := List.cons.inj split
    exact ⟨[], node, mem, is_break, rfl⟩
  · obtain ⟨rfl, later_split⟩ := List.cons.inj split
    obtain ⟨rfl, rest_split⟩ := List.cons.inj later_split
    obtain ⟨front, other, other_mem, other_break, rfl⟩ := breaks before after rest_split
    exact ⟨_ :: _ :: front, other, other_mem, other_break, rfl⟩

end BreaksFollow

namespace Walk

variable {agenda : List (Role × Node)} {events : List Event}

/-- Each paragraph break of a walk belongs to a break node in prose position. -/
theorem breaksFollow (walk : Walk agenda events) :
    BreaksFollow (agenda.flatMap fun visit => visit.1.proseNodes visit.2) events := by
  induction walk with
  | done => exact .nil
  | separator text walk induction => exact induction.piece _
  | @leaf agenda events node leaf walk induction =>
      have later := induction.mono
        (List.subset_append_right (Role.proseNodes (.read .prose) node) _)
      rcases leafEvents_cases leaf node.text node.span with
        output | ⟨substitute, output⟩ | ⟨is_break, output⟩
      · rw [output]
        exact later.piece _
      · rw [output]
        exact later.piece _
      · rw [output]
        refine later.parbreak is_break (List.mem_append_left _ ?_)
        simp [Role.proseNodes, proseNodes_eq]
  | conceal hidden childless walk induction =>
      exact (induction.mono (List.subset_append_right _ _)).piece _
  | colon is_colon walk induction => exact induction.piece _
  | veil walk induction => exact induction.piece _
  | @placeholder agenda events position node text veiled walk induction =>
      have later := induction.mono
        (List.subset_append_right (Role.proseNodes (.read position) node) _)
      cases position
      · exact (later.piece _).piece _
      · exact later.piece _
  | descend no_leaf no_veil container walk induction =>
      refine induction.mono ?_
      rw [List.flatMap_append, List.flatMap_cons]
      exact List.append_subset.2
        ⟨fun node mem => List.mem_append_left _ (mem_proseNodes_of_roles mem),
          List.subset_append_right _ _⟩

/-- A walk has no event but pieces and paragraph breaks. -/
theorem event_cases (walk : Walk agenda events) :
    ∀ event ∈ events, (∃ piece, event = .piece piece) ∨ event = .paragraphBreak := by
  induction walk with
  | done => simp
  | separator text walk induction => simpa [separate] using induction
  | @leaf agenda events node leaf walk induction =>
      rcases leafEvents_cases leaf node.text node.span with
        output | ⟨substitute, output⟩ | ⟨-, output⟩
      · simpa [output, reveal] using induction
      · simpa [output, replace] using induction
      · simpa [output, replace] using induction
  | conceal hidden childless walk induction => simpa [hide] using induction
  | colon is_colon walk induction => simpa [reveal] using induction
  | veil walk induction => simpa [hide] using induction
  | @placeholder agenda events position node text veiled walk induction =>
      cases position <;> simpa [placeholderEvents, hide, replace] using induction
  | descend no_leaf no_veil container walk induction => exact induction

end Walk

/-- What a piece of a conversion shows of some nodes: nothing, a substitute for one of them, or
the text of one that is a leaf. -/
inductive Shows (nodes : List Node) : Piece → Prop where
  | nothing (text : Text) : Shows nodes (.hidden text)
  | separator (text : Text) : Shows nodes (.encoded [] text none)
  | substitute {node : Node} (written substitute : Text) :
      node ∈ nodes → Shows nodes (.encoded written substitute (some node.span))
  | text {node : Node} :
      node ∈ nodes →
      (node.kind.isProseLeaf || node.kind = .colon) = true →
      Shows nodes (.plain node.text (some node.span) 0)

namespace Shows

variable {nodes : List Node} {piece : Piece}

theorem mono (shows : Shows nodes piece) {more : List Node} (subset : nodes ⊆ more) :
    Shows more piece := by
  cases shows with
  | nothing text => exact .nothing text
  | separator text => exact .separator text
  | substitute written substitute mem => exact .substitute written substitute (subset mem)
  | text mem leaf => exact .text (subset mem) leaf

/-- The span of a piece is that of the node which it shows. -/
theorem exists_node (shows : Shows nodes piece) {span : Span} (span_eq : piece.span? = some span) :
    ∃ node ∈ nodes, node.span = span := by
  cases shows with
  | nothing text => simp [Piece.span?] at span_eq
  | separator text => simp [Piece.span?] at span_eq
  | substitute written substitute mem => exact ⟨_, mem, Option.some.inj span_eq⟩
  | text mem leaf => exact ⟨_, mem, Option.some.inj span_eq⟩

end Shows

theorem shows_leafEvents {node : Node} (leaf : node.kind.isProseLeaf = true) :
    ∀ piece ∈ Event.pieces (leafEvents node.kind node.text node.span), Shows [node] piece := by
  intro piece mem
  have node_mem : node ∈ [node] := List.mem_singleton_self node
  rcases leafEvents_cases leaf node.text node.span with
    output | ⟨substitute, output⟩ | ⟨-, output⟩
  · obtain rfl : piece = .plain node.text (some node.span) 0 := by
      simpa [output, reveal, Event.piece?] using mem
    exact .text node_mem (by simp [leaf])
  · obtain rfl : piece = .encoded node.text substitute (some node.span) := by
      simpa [output, replace, Event.piece?] using mem
    exact .substitute _ _ node_mem
  · obtain rfl : piece = .encoded node.text paragraph (some node.span) := by
      simpa [output, replace, Event.piece?] using mem
    exact .substitute _ _ node_mem

theorem shows_placeholderEvents (position : Position) (text : Text) (node : Node) :
    ∀ piece ∈ Event.pieces (placeholderEvents position text node), Shows [node] piece := by
  intro piece mem
  cases position
  · simp only [placeholderEvents, replace, hide, Event.pieces_cons, Event.piece?,
      Option.toList_some, Event.pieces_nil, List.append_nil, List.cons_append, List.nil_append,
      List.mem_cons, List.not_mem_nil, or_false] at mem
    rcases mem with rfl | rfl
    · exact .substitute _ _ (List.mem_singleton_self node)
    · exact .nothing _
  · obtain rfl : piece = .hidden node.fullText := by
      simpa [placeholderEvents, hide, Event.piece?] using mem
    exact .nothing _

namespace Walk

variable {agenda : List (Role × Node)} {events : List Event}

/-- Every piece of a walk shows something of a node that the walk meets, or nothing. -/
theorem shows (walk : Walk agenda events) :
    ∀ piece ∈ Event.pieces events, Shows (agendaNodes agenda) piece := by
  induction walk with
  | done => simp
  | separator text walk induction =>
      intro piece mem
      rcases List.mem_cons.1 mem with rfl | mem
      · exact .separator text
      · exact induction piece mem
  | @leaf agenda events node leaf walk induction =>
      intro piece mem
      rw [Event.pieces_append] at mem
      rcases List.mem_append.1 mem with mem | mem
      · refine (shows_leafEvents leaf piece mem).mono ?_
        simp [head_mem_agendaNodes]
      · exact (induction piece mem).mono tail_subset_agendaNodes
  | conceal hidden childless walk induction =>
      intro piece mem
      rcases List.mem_cons.1 mem with rfl | mem
      · exact .nothing _
      · exact (induction piece mem).mono tail_subset_agendaNodes
  | colon is_colon walk induction =>
      intro piece mem
      rcases List.mem_cons.1 mem with rfl | mem
      · exact .text head_mem_agendaNodes (by simp [is_colon])
      · exact (induction piece mem).mono tail_subset_agendaNodes
  | veil walk induction =>
      intro piece mem
      rcases List.mem_cons.1 mem with rfl | mem
      · exact .nothing _
      · exact (induction piece mem).mono tail_subset_agendaNodes
  | @placeholder agenda events position node text veiled walk induction =>
      intro piece mem
      rw [Event.pieces_append] at mem
      rcases List.mem_append.1 mem with mem | mem
      · refine (shows_placeholderEvents position text node piece mem).mono ?_
        simp [head_mem_agendaNodes]
      · exact (induction piece mem).mono tail_subset_agendaNodes
  | descend no_leaf no_veil container walk induction =>
      intro piece mem
      exact (induction piece mem).mono roles_subset_agendaNodes

end Walk

/-- Every piece of a conversion shows something of a node of the tree, or nothing. -/
theorem shows_events (rules : Rules) (position : Position) (tree : Node) :
    ∀ piece ∈ Event.pieces (events rules position tree), Shows tree.preorder piece := by
  have walk := walk_events rules position tree .done
  simpa [agendaNodes] using walk.shows
end Markup
end ProseCheck
