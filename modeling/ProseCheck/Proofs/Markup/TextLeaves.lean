import Mathlib.Data.List.Nodup
import ProseCheck.Proofs.Chunk.Ownership
import ProseCheck.Proofs.Markup.ProseNodes

/-!
# Text leaves

A text leaf in prose position is the only source of characters that a walk takes from a text leaf,
and the walk takes all of them, each once and in order.
-/

namespace ProseCheck

/-- Whether a mark comes from a node whose span is one of some spans. -/
def Mark.comesFrom (spans : Span → Bool) (mark : Mark) : Bool :=
  (mark.origin.map Origin.span).any spans

/-- The characters of a leaf that is shown as it is. -/
def Node.verbatim (leaf : Node) : List Mark := Mark.verbatim leaf.span 0 leaf.text

namespace Node

/-- The characters of a leaf, each with the octets of its own. -/
def ownedChars (language : String) (leaf : Node) : List OwnedChar :=
  leaf.text.zipIdx.map fun (char, index) =>
    ⟨char,
      ⟨leaf.span, Utf8.size (leaf.text.take index),
        Utf8.size (leaf.text.take index) + Utf8.width char⟩,
      language⟩

theorem verbatim_eq_ownedChars (language : String) (leaf : Node) :
    leaf.verbatim =
      (leaf.ownedChars language).map fun owned => ⟨owned.char, true, some owned.origin⟩ := by
  apply List.ext_getElem?
  intro index
  rw [verbatim, Mark.getElem?_verbatim, ownedChars, List.map_map, List.getElem?_map,
    List.getElem?_zipIdx]
  cases leaf.text[index]? <;> simp

theorem of_mem_ownedChars {language : String} {leaf : Node} {owned : OwnedChar}
    (mem : owned ∈ leaf.ownedChars language) :
    owned.origin.span = leaf.span ∧ owned.language = language := by
  obtain ⟨numbered, -, rfl⟩ := List.mem_map.1 mem
  exact ⟨rfl, rfl⟩

theorem filterMap_owned?_verbatim {leaf : Node} {id : FileId}
    (file_eq : leaf.span.file = some id) (language : String) :
    leaf.verbatim.filterMap (Mark.owned? (some id) language) = leaf.ownedChars language := by
  have is_owned : ∀ owned ∈ leaf.ownedChars language,
      Mark.owned? (some id) language ⟨owned.char, true, some owned.origin⟩ = some owned := by
    intro owned mem
    obtain ⟨span_eq, rfl⟩ := of_mem_ownedChars mem
    simp [Mark.owned?, Origin.isOwned, span_eq, file_eq, Option.filter_some]
  rw [verbatim_eq_ownedChars language, List.filterMap_map]
  exact (List.filterMap_congr is_owned).trans List.filterMap_some

/-- No two characters of a leaf have the same octets. -/
theorem nodup_origins_ownedChars (language : String) (leaf : Node) :
    ((leaf.ownedChars language).map OwnedChar.origin).Nodup := by
  have nodup := Mark.nodup_origins_verbatim leaf.span 0 leaf.text
  rw [← verbatim, verbatim_eq_ownedChars language, List.map_map] at nodup
  refine List.Nodup.of_map some ?_
  rwa [List.map_map]

end Node

theorem Piece.filter_comesFrom (spans : Span → Bool) (piece : Piece) :
    piece.marks.filter (Mark.comesFrom spans) =
      if piece.span?.any spans then piece.marks else [] := by
  have comes : ∀ mark ∈ piece.marks, mark.comesFrom spans = piece.span?.any spans := by
    intro mark mem
    rw [Mark.comesFrom, Piece.span_of_mem_marks mem]
  rw [List.filter_congr comes]
  cases piece.span?.any spans <;> simp

namespace Markup

/-- Marks of some events that come from some spans. -/
def marksFrom (spans : Span → Bool) (events : List Event) : List Mark :=
  ((Event.pieces events).flatMap Piece.marks).filter (Mark.comesFrom spans)

@[simp]
theorem marksFrom_piece (spans : Span → Bool) (piece : Piece) (events : List Event) :
    marksFrom spans (.piece piece :: events) =
      (if piece.span?.any spans then piece.marks else []) ++ marksFrom spans events := by
  simp [marksFrom, Event.piece?, Piece.filter_comesFrom]

@[simp]
theorem marksFrom_paragraphBreak (spans : Span → Bool) (events : List Event) :
    marksFrom spans (.paragraphBreak :: events) = marksFrom spans events := rfl

/-- Text leaves in prose position, in order, for a tree that is read in a position. -/
def textLeaves (position : Position) (tree : Node) : List Node :=
  (proseNodes position tree).filter fun node => node.kind = .text

/-- Text leaves in prose position for a node in a role. -/
def Role.textLeaves (role : Role) (node : Node) : List Node :=
  (role.proseNodes node).filter fun node => node.kind = .text

theorem textLeaves_eq_nil {position : Position} {node : Node} (no_text : node.kind ≠ .text)
    (shut : proseNodesBelow position node.kind node.children = []) :
    textLeaves position node = [] := by
  rw [textLeaves, proseNodes_eq, shut]
  split <;> simp [no_text]

theorem textLeaves_of_isProseLeaf {node : Node} (leaf : node.kind.isProseLeaf = true) :
    textLeaves .prose node = if node.kind = .text then [node] else [] := by
  rw [textLeaves, proseNodes_eq, proseNodesBelow_eq_nil (by simp [leaf])]
  by_cases text : node.kind = .text <;> simp [text]

/-- The role of a child hides no text leaf that is in prose position, and shows no other. -/
theorem textLeaves_childRole {child : Node} (fits : child.fitsKind = true)
    (position : Position) (parent : Kind) (afterMarker : Bool) :
    (childRole position parent afterMarker child.kind).textLeaves child =
      ((childPosition? position parent child.kind).map fun below =>
        textLeaves below child).getD [] := by
  unfold childRole
  split
  · rename_i after_marker
    have space : child.kind = .space := by simpa using (Bool.and_eq_true_iff.1 after_marker).2
    have blank (below : Position) : textLeaves below child = [] :=
      textLeaves_eq_nil (by simp [space])
        (proseNodesBelow_eq_nil (by simp [space, Kind.isProseLeaf]) _)
    have hidden : Role.textLeaves (.read .hidden) child = [] := blank .hidden
    rw [hidden]
    cases childPosition? position parent child.kind with
    | none => rfl
    | some below => exact (blank below).symm
  · split
    · rename_i term_colon
      have blank (below : Position) : textLeaves below child = [] := by
        refine textLeaves_eq_nil (by simp [term_colon.1]) ?_
        rw [Node.childless_of_fitsKind fits (by simp [term_colon.1]), proseNodesBelow]
      cases childPosition? position parent child.kind with
      | none => rfl
      | some below => exact (blank below).symm
    · cases childPosition? position parent child.kind <;> rfl

/-- The agenda of a node has the text leaves of the node. -/
theorem flatMap_textLeaves_roles {position : Position} {node : Node}
    (fits : ∀ child ∈ node.children, child.fitsKind = true) (no_text : node.kind ≠ .text) :
    ((roles position node).flatMap fun visit => visit.1.textLeaves visit.2) =
      textLeaves position node := by
  have below : textLeaves position node =
      (proseNodesBelow position node.kind node.children).filter fun node => node.kind = .text := by
    rw [textLeaves, proseNodes_eq]
    split <;> simp [no_text]
  rw [below, roles]
  clear below
  generalize node.children = children at fits ⊢
  generalize false = afterMarker
  induction children generalizing afterMarker with
  | nil => rfl
  | cons child rest induction =>
      obtain ⟨child_fits, rest_fits⟩ := List.forall_mem_cons.1 fits
      rw [rolesFrom, List.flatMap_cons, proseNodesBelow, List.filter_append,
        textLeaves_childRole child_fits, induction rest_fits]
      cases childPosition? position node.kind child.kind <;> rfl

/-- The characters that a walk takes from text leaves are those of the text leaves in prose
position. -/
theorem Walk.marksFrom_eq {agenda : List (Role × Node)} {events : List Event}
    (walk : Walk agenda events) (fits : ∀ node ∈ agendaNodes agenda, node.fitsKind = true)
    {spans : Span → Bool}
    (of_texts : ∀ node ∈ agendaNodes agenda, spans node.span = decide (node.kind = .text)) :
    marksFrom spans events =
      (agenda.flatMap fun visit => visit.1.textLeaves visit.2).flatMap Node.verbatim := by
  induction walk with
  | done => rfl
  | separator text walk induction =>
      rw [separate, marksFrom_piece, induction fits of_texts]
      rfl
  | @leaf agenda events node leaf walk induction =>
      have of_text := of_texts node head_mem_agendaNodes
      have later := induction (fun inner mem => fits inner (tail_subset_agendaNodes mem))
        fun inner mem => of_texts inner (tail_subset_agendaNodes mem)
      have leaves_eq : Role.textLeaves (.read .prose) node =
          if node.kind = .text then [node] else [] := textLeaves_of_isProseLeaf leaf
      rw [List.flatMap_cons, List.flatMap_append, leaves_eq, ← later]
      by_cases text : node.kind = .text
      · simp [text, leafEvents, reveal, Piece.span?, of_text, Piece.marks, Node.verbatim]
      · rcases leafEvents_cases leaf node.text node.span with
          output | ⟨substitute, output⟩ | ⟨-, output⟩
        · simp [output, reveal, Piece.span?, of_text, text]
        · simp [output, replace, Piece.span?, of_text, text]
        · simp [output, replace, Piece.span?, of_text, text]
  | @conceal agenda events position node hidden childless walk induction =>
      have later := induction (fun inner mem => fits inner (tail_subset_agendaNodes mem))
        fun inner mem => of_texts inner (tail_subset_agendaNodes mem)
      have leaves_eq : Role.textLeaves (.read position) node = [] := by
        cases leaf : node.kind.isProseLeaf with
        | true =>
            rw [hidden leaf, Role.textLeaves, Role.proseNodes, proseNodes_eq,
              proseNodesBelow_eq_nil (by simp [leaf])]
            rfl
        | false =>
            refine textLeaves_eq_nil ?_ (by rw [childless leaf, proseNodesBelow])
            rintro text
            simp [text, Kind.isProseLeaf] at leaf
      rw [List.flatMap_cons, leaves_eq, hide, marksFrom_piece, later]
      rfl
  | @colon agenda events node is_colon walk induction =>
      have of_text := of_texts node head_mem_agendaNodes
      have later := induction (fun inner mem => fits inner (tail_subset_agendaNodes mem))
        fun inner mem => of_texts inner (tail_subset_agendaNodes mem)
      rw [reveal, marksFrom_piece, later]
      simp [Piece.span?, of_text, is_colon, Role.textLeaves, Role.proseNodes]
  | @veil agenda events node walk induction =>
      have later := induction (fun inner mem => fits inner (tail_subset_agendaNodes mem))
        fun inner mem => of_texts inner (tail_subset_agendaNodes mem)
      rw [hide, marksFrom_piece, later]
      rfl
  | @placeholder agenda events position node text veiled walk induction =>
      have of_text := of_texts node head_mem_agendaNodes
      have later := induction (fun inner mem => fits inner (tail_subset_agendaNodes mem))
        fun inner mem => of_texts inner (tail_subset_agendaNodes mem)
      have no_text : node.kind ≠ .text := by
        intro text
        simp [text, Kind.isVeiled] at veiled
      have leaves_eq : Role.textLeaves (.read position) node = [] :=
        textLeaves_eq_nil no_text (proseNodesBelow_eq_nil (by simp [veiled]) _)
      rw [List.flatMap_cons, leaves_eq, List.nil_append, ← later]
      cases position
      · simp [placeholderEvents, replace, hide, Piece.span?, of_text, no_text]
      · simp [placeholderEvents, hide, Piece.span?]
  | @descend agenda events position node no_leaf no_veil container walk induction =>
      have no_text : node.kind ≠ .text := by
        intro text
        simp [text, Kind.isProseLeaf] at no_leaf
      have children_fit : ∀ child ∈ node.children, child.fitsKind = true := fun child mem =>
        fits child (List.mem_append_left _ (Node.mem_preorder_of_child mem child.mem_preorder_self))
      have below := induction (fun inner mem => fits inner (roles_subset_agendaNodes mem))
        fun inner mem => of_texts inner (roles_subset_agendaNodes mem)
      rwa [List.flatMap_append, flatMap_textLeaves_roles children_fit no_text] at below

/-- A walk sets no language, so all it emits is in the language in force. -/
theorem Walk.emissions_eq {agenda : List (Role × Node)} {events : List Event}
    (walk : Walk agenda events) (language : String) :
    Event.emissions language events =
      ((Event.pieces events).flatMap Piece.marks).map (·, language) := by
  have event_cases := walk.event_cases
  clear walk
  induction events with
  | nil => rfl
  | cons event rest induction =>
      obtain ⟨first_case, rest_cases⟩ := List.forall_mem_cons.1 event_cases
      rcases first_case with ⟨piece, rfl⟩ | rfl
      · simp [Event.emissions, Event.piece?, induction rest_cases]
      · simp [Event.emissions, Event.piece?, induction rest_cases]

end Markup
end ProseCheck
