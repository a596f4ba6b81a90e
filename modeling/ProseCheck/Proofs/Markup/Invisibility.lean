import ProseCheck.Proofs.Chunk.Face
import ProseCheck.Proofs.Markup.Walk

/-!
# Invisible markup

The outline of a tree is its shape with the kinds and spans of its nodes, the texts that its
conversion shows, and the names by which rules are looked up.  Trees of one outline are converted
to chunks of the same faces, whatever stands in their code, mathematics, references, item markers
and delimiters.
-/

namespace ProseCheck

/-- The name by which the rules of a node are looked up: what a call invokes, or the name of a
named argument. -/
def Node.ruleName? (node : Node) : Option String :=
  match node.kind with
  | .funcCall => node.callee?
  | .named => some node.argumentName
  | _ => none

/-- What the conversion of a tree may depend on. -/
inductive Outline where
  | node (kind : Kind) (span : Span) (shown : Option Text) (name : Option String)
      (children : List Outline)

namespace Markup
namespace Role

/-- Whether the text of a node of a kind is shown in a role: that of a leaf of prose in prose
position, and that of the colon of a term. -/
def shows (kind : Kind) : Role → Bool
  | .read .prose => kind.isProseLeaf
  | .read .hidden | .veiled => false
  | .colon => true

/-- Role of a child of a node that is met in a role; what hangs under a hidden node is hidden. -/
def below (parent : Kind) (afterMarker : Bool) (child : Kind) : Role → Role
  | .read position => childRole position parent afterMarker child
  | .veiled | .colon => .veiled

end Role

mutual

/-- Outline of a node that is met in a role. -/
def outline (role : Role) : Node → Outline
  | ⟨kind, text, children, span⟩ =>
    .node kind span (if role.shows kind then some text else none)
      (Node.ruleName? ⟨kind, text, children, span⟩) (outlineFrom role kind false children)

/-- Outlines of the children of a node, given whether the first stands right after an item
marker. -/
def outlineFrom (role : Role) (parent : Kind) (afterMarker : Bool) : List Node → List Outline
  | [] => []
  | child :: rest =>
    outline (role.below parent afterMarker child.kind) child
      :: outlineFrom role parent (parent.isItem && child.kind.isItemMarker) rest

end

theorem isEmpty_of_outlineFrom {role : Role} {parent : Kind} {afterMarker : Bool}
    {children others : List Node}
    (same : outlineFrom role parent afterMarker children =
      outlineFrom role parent afterMarker others) : children.isEmpty = others.isEmpty := by
  cases children with
  | nil =>
      cases others with
      | nil => rfl
      | cons other others => simp [outlineFrom] at same
  | cons child rest =>
      cases others with
      | nil => simp [outlineFrom] at same
      | cons other others => rfl

theorem kind_of_outline {role otherRole : Role} {node other : Node}
    (same : outline role node = outline otherRole other) : node.kind = other.kind := by
  obtain ⟨kind, text, children, span⟩ := node
  obtain ⟨otherKind, otherText, others, otherSpan⟩ := other
  rw [outline, outline] at same
  exact (Outline.node.inj same).1

theorem ruleName?_of_outline {role : Role} {node other : Node}
    (same : outline role node = outline role other) : node.ruleName? = other.ruleName? := by
  obtain ⟨kind, text, children, span⟩ := node
  obtain ⟨otherKind, otherText, others, otherSpan⟩ := other
  rw [outline, outline] at same
  exact (Outline.node.inj same).2.2.2.1

/-- Children of one outline agree on the first one and on the others. -/
theorem outlineFrom_cons_inj {role : Role} {parent : Kind} {afterMarker : Bool}
    {child other : Node} {rest others : List Node}
    (same : outlineFrom role parent afterMarker (child :: rest) =
      outlineFrom role parent afterMarker (other :: others)) :
    child.kind = other.kind ∧
      outline (role.below parent afterMarker child.kind) child =
        outline (role.below parent afterMarker child.kind) other ∧
      outlineFrom role parent (parent.isItem && child.kind.isItemMarker) rest =
        outlineFrom role parent (parent.isItem && child.kind.isItemMarker) others := by
  rw [outlineFrom, outlineFrom] at same
  obtain ⟨same_child, same_rest⟩ := List.cons.inj same
  have same_kind := kind_of_outline same_child
  rw [← same_kind] at same_child same_rest
  exact ⟨same_kind, same_child, same_rest⟩

/-- Children of a node that is no item are read in the positions of their kinds. -/
theorem outlineFrom_cons_read {position : Position} (below : Position) {parent : Kind}
    (no_item : parent.isItem = false) {child other : Node} {rest others : List Node}
    (reads : childPosition? position parent child.kind = some below)
    (same : outlineFrom (.read position) parent false (child :: rest) =
      outlineFrom (.read position) parent false (other :: others)) :
    child.kind = other.kind ∧
      outline (.read below) child = outline (.read below) other ∧
      outlineFrom (.read position) parent false rest =
        outlineFrom (.read position) parent false others := by
  obtain ⟨same_kind, same_child, same_rest⟩ := outlineFrom_cons_inj same
  have no_term : parent ≠ .termItem := by
    rintro rfl
    simp [Kind.isItem] at no_item
  have role_eq : childRole position parent false child.kind = .read below := by
    simp [childRole, no_term, reads]
  rw [Role.below, role_eq] at same_child
  rw [no_item, Bool.false_and] at same_rest
  exact ⟨same_kind, same_child, same_rest⟩

theorem blanked_hide (text other : Text) : (hide text).blanked = (hide other).blanked := rfl

theorem blanked_placeholderEvents (position : Position) (placeholder : Text) {node other : Node}
    (same_span : node.span = other.span) :
    (placeholderEvents position placeholder node).map Event.blanked =
      (placeholderEvents position placeholder other).map Event.blanked := by
  cases position with
  | prose => simp [placeholderEvents, same_span, blanked_hide node.fullText other.fullText]
  | hidden => simp [placeholderEvents, blanked_hide node.fullText other.fullText]

section

variable (rules : Rules)

mutual

/-- Nodes of one outline give the same events but for hidden texts. -/
theorem blanked_events (position : Position) :
    ∀ (node : Node) {other : Node},
      outline (.read position) node = outline (.read position) other →
        (events rules position node).map Event.blanked =
          (events rules position other).map Event.blanked
  | ⟨kind, text, children, span⟩, ⟨_, otherText, others, _⟩, same => by
    rw [outline, outline] at same
    obtain ⟨rfl, rfl, same_shown, same_name, same_children⟩ := Outline.node.inj same
    have same_isEmpty := isEmpty_of_outlineFrom same_children
    have below (below : Position) (no_item : kind.isItem = false)
        (reads : ∀ child, childPosition? position kind child = some below) :
        (eventsOfAll rules below children).map Event.blanked =
          (eventsOfAll rules below others).map Event.blanked :=
      blanked_eventsOfAll no_item reads children same_children
    have unless_leaf (below_position : Position)
        (same_below : (eventsOfAll rules below_position children).map Event.blanked =
          (eventsOfAll rules below_position others).map Event.blanked) :
        (if children.isEmpty then [hide text] else eventsOfAll rules below_position children).map
            Event.blanked =
          (if others.isEmpty then [hide otherText]
            else eventsOfAll rules below_position others).map Event.blanked := by
      rw [same_isEmpty]
      split
      · rfl
      · exact same_below
    cases kind
    case markup => exact below .prose rfl fun _ => rfl
    case strong | emph => exact unless_leaf position (below position rfl fun _ => rfl)
    case text | smartQuote | space | parbreak | linebreak | shorthand | escape =>
      cases position with
      | prose =>
          obtain rfl : text = otherText := Option.some.inj same_shown
          rfl
      | hidden => rfl
    case heading | listItem | enumItem | termItem =>
      have same_items := blanked_itemEvents rfl children same_children
      simp only [events, List.map_cons, List.map_append, same_items]
    case equation | ref => exact blanked_placeholderEvents position _ rfl
    case funcCall =>
      have same_callee : Node.callee? ⟨.funcCall, text, children, span⟩ =
          Node.callee? ⟨.funcCall, otherText, others, span⟩ := same_name
      have same_call (afterArgument : Text) :
          (callEvents rules afterArgument children).map Event.blanked =
            (callEvents rules afterArgument others).map Event.blanked :=
        blanked_callEvents afterArgument children same_children
      simp only [events, same_callee]
      split
      · simp only [List.map_append, same_call]
      · exact same_call []
    case contentBlock => exact blanked_contentEvents children same_children
    all_goals exact unless_leaf .hidden (below .hidden rfl fun _ => rfl)
termination_by structural node => node

theorem blanked_eventsOfAll {position below : Position} {parent : Kind}
    (no_item : parent.isItem = false)
    (reads : ∀ child, childPosition? position parent child = some below) :
    ∀ (nodes : List Node) {others : List Node},
      outlineFrom (.read position) parent false nodes =
          outlineFrom (.read position) parent false others →
        (eventsOfAll rules below nodes).map Event.blanked =
          (eventsOfAll rules below others).map Event.blanked
  | [], [], _ => rfl
  | node :: nodes, other :: others, same => by
    obtain ⟨-, same_node, same_rest⟩ := outlineFrom_cons_read below no_item (reads node.kind) same
    rw [eventsOfAll, eventsOfAll, List.map_append, List.map_append,
      blanked_events below node same_node, blanked_eventsOfAll no_item reads nodes same_rest]
termination_by structural nodes => nodes

theorem blanked_itemEvents {position : Position} {item : Kind} {afterMarker : Bool}
    (is_item : item.isItem = true) :
    ∀ (nodes : List Node) {others : List Node},
      outlineFrom (.read position) item afterMarker nodes =
          outlineFrom (.read position) item afterMarker others →
        (itemEvents rules item afterMarker nodes).map Event.blanked =
          (itemEvents rules item afterMarker others).map Event.blanked
  | [], [], _ => rfl
  | ⟨kind, text, children, span⟩ :: nodes, ⟨otherKind, otherText, otherChildren, otherSpan⟩ :: rest,
      same => by
    obtain ⟨same_kind, same_node, same_rest⟩ := outlineFrom_cons_inj same
    obtain rfl : kind = otherKind := same_kind
    rw [is_item, Bool.true_and] at same_rest
    rw [Role.below, childRole, childPosition?_of_isItem is_item] at same_node
    have rest_eq := blanked_itemEvents is_item nodes same_rest
    rw [itemEvents, itemEvents]
    -- Whether the next child may be swallowed hangs on whether this one is a marker.
    by_cases marker : kind.isItemMarker = true
    · rw [marker] at rest_eq
      simp only [marker, if_true, List.map_cons, rest_eq]
      rfl
    · rw [Bool.eq_false_iff.2 marker] at rest_eq
      simp only [marker, Bool.false_eq_true, if_false] at same_node ⊢
      split
      · rw [List.map_cons, List.map_cons, rest_eq]
        rfl
      · split
        · rename_i not_swallowed term_colon
          rw [if_neg not_swallowed, if_pos term_colon, outline, outline] at same_node
          obtain ⟨-, rfl, same_shown, -, -⟩ := Outline.node.inj same_node
          obtain rfl : text = otherText := Option.some.inj same_shown
          rw [List.map_cons, List.map_cons, rest_eq]
        · rename_i not_swallowed no_term_colon
          rw [if_neg not_swallowed, if_neg no_term_colon] at same_node
          rw [List.map_append, List.map_append, rest_eq,
            blanked_events .prose ⟨kind, text, children, span⟩ same_node]
termination_by structural nodes => nodes

theorem blanked_callEvents {position : Position} (afterArgument : Text) :
    ∀ (nodes : List Node) {others : List Node},
      outlineFrom (.read position) .funcCall false nodes =
          outlineFrom (.read position) .funcCall false others →
        (callEvents rules afterArgument nodes).map Event.blanked =
          (callEvents rules afterArgument others).map Event.blanked
  | [], [], _ => rfl
  | ⟨kind, text, children, span⟩ :: nodes, ⟨otherKind, otherText, otherChildren, otherSpan⟩ :: rest,
      same => by
    obtain ⟨same_kind, same_node, same_rest⟩ :=
      outlineFrom_cons_read .hidden rfl rfl same
    obtain rfl : kind = otherKind := same_kind
    rw [callEvents, callEvents, List.map_append, List.map_append,
      blanked_callEvents afterArgument nodes same_rest]
    split
    · rename_i is_args
      subst is_args
      rw [outline, outline] at same_node
      obtain ⟨-, -, -, -, same_children⟩ := Outline.node.inj same_node
      rw [blanked_argumentEvents afterArgument children same_children]
    · rw [blanked_events .hidden ⟨kind, text, children, span⟩ same_node]
termination_by structural nodes => nodes

theorem blanked_argumentEvents {position : Position} (afterArgument : Text) :
    ∀ (nodes : List Node) {others : List Node},
      outlineFrom (.read position) .args false nodes =
          outlineFrom (.read position) .args false others →
        (argumentEvents rules afterArgument nodes).map Event.blanked =
          (argumentEvents rules afterArgument others).map Event.blanked
  | [], [], _ => rfl
  | node :: nodes, other :: others, same => by
    obtain ⟨same_kind, same_node, same_rest⟩ :=
      outlineFrom_cons_read .hidden rfl rfl same
    have same_events := blanked_events .hidden node same_node
    have same_name := ruleName?_of_outline same_node
    rw [argumentEvents, argumentEvents, List.map_append, List.map_append,
      blanked_argumentEvents afterArgument nodes same_rest, ← same_kind]
    congr 1
    split
    · rename_i is_named
      have same_argument : node.argumentName = other.argumentName := by
        simpa [Node.ruleName?, is_named, ← same_kind] using same_name
      rw [same_argument]
      split
      · simp only [List.map_append, same_events]
      · exact same_events
    · rw [List.map_append, List.map_append, same_events]
    · exact same_events
termination_by structural nodes => nodes

theorem blanked_contentEvents {position : Position} :
    ∀ (nodes : List Node) {others : List Node},
      outlineFrom (.read position) .contentBlock false nodes =
          outlineFrom (.read position) .contentBlock false others →
        (contentEvents rules nodes).map Event.blanked =
          (contentEvents rules others).map Event.blanked
  | [], [], _ => rfl
  | ⟨kind, text, children, span⟩ :: nodes, ⟨otherKind, otherText, otherChildren, otherSpan⟩ :: rest,
      same => by
    obtain ⟨same_kind, same_node, same_rest⟩ := outlineFrom_cons_read _ rfl rfl same
    obtain rfl : kind = otherKind := same_kind
    rw [contentEvents, contentEvents, List.map_append, List.map_append,
      blanked_contentEvents nodes same_rest,
      blanked_events _ ⟨kind, text, children, span⟩ same_node]
termination_by structural nodes => nodes

end

end

/-- Markup is invisible.  Trees of one shape with equal kinds and spans, which agree on the texts of
the leaves that are shown and on the names of their calls and named arguments, are converted to as
many chunks with equal streams, languages, position maps and kinds of segments. -/
theorem face_convert_of_outline {tree other : Node}
    (same : outline (.read .prose) tree = outline (.read .prose) other) (rules : Rules)
    (limit : Int) (interest : Option FileId) (language : String) :
    (convert rules limit interest language tree).map Chunk.face =
      (convert rules limit interest language other).map Chunk.face :=
  Collector.map_face_collect (blanked_events rules .prose tree same) limit interest language

/-- A heading, a formula and a call, with the texts that stand in them. -/
def headedFormula (marker gap formula argument : Text) : Node :=
  .inner .markup
    [.inner .heading [.leaf .headingMarker marker, .leaf .space gap, .leaf .text ['S', 'u', 'm']],
      .inner .equation [.leaf .math formula],
      .inner .funcCall
        [.leaf .ident ['f'], .inner .args [.leaf .str argument, .inner .contentBlock
          [.leaf .leftBracket ['['], .inner .markup [.leaf .text ['é']],
            .leaf .rightBracket [']']]]]]

theorem face_convert_of_outline_headedFormula :
    outline (.read .prose) (headedFormula ['='] [' '] ['$', 'x', '$'] ['"', 'a', '"']) =
        outline (.read .prose) (headedFormula ['=', '='] ['\t'] ['$', 'α', '$'] ['"', '"']) ∧
      (headedFormula ['='] [' '] ['$', 'x', '$'] ['"', 'a', '"']).fullText ≠
        (headedFormula ['=', '='] ['\t'] ['$', 'α', '$'] ['"', '"']).fullText ∧
      (convert Rules.standard 3 none "en-US"
          (headedFormula ['='] [' '] ['$', 'x', '$'] ['"', 'a', '"'])).map Chunk.face =
        (convert Rules.standard 3 none "en-US"
          (headedFormula ['=', '='] ['\t'] ['$', 'α', '$'] ['"', '"'])).map Chunk.face :=
  ⟨rfl, by decide, face_convert_of_outline rfl Rules.standard 3 none "en-US"⟩

end Markup
end ProseCheck
