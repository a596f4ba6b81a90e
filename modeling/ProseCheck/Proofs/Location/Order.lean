import ProseCheck.Proofs.Chunk.Ownership
import ProseCheck.Proofs.Location.Insertion
import ProseCheck.Proofs.Markup.DocumentOrder

/-!
# Where characters stand

A character of a text node stands at octets of its own, and any other character at all octets of
its node.  In pieces that show the nodes of a source in order, each character stands where an
earlier one does or behind it, and always between two characters of the source.
-/

namespace ProseCheck

/-- Characters that stand in a node as they are stand one after the other. -/
theorem Mark.pairwise_verbatim (span : Span) (offset : Int) (text : Text) :
    (verbatim span offset text).Pairwise fun earlier later =>
      ∀ first second, earlier.origin = some first → later.origin = some second →
        first.stop ≤ second.start := by
  induction text generalizing offset with
  | nil => exact .nil
  | cons char rest induction =>
      rw [verbatim]
      refine List.pairwise_cons.2 ⟨?_, induction _⟩
      intro mark mem first second first_eq second_eq
      obtain ⟨left, right, -, origin_eq⟩ := exists_of_mem_verbatim mem
      rw [origin_eq] at second_eq
      cases first_eq
      cases second_eq
      simp only
      omega

theorem Mark.exact_of_mem_verbatim {span : Span} {offset : Int} {text : Text} {mark : Mark}
    (mem : mark ∈ verbatim span offset text) : mark.exact = true := by
  induction text generalizing offset with
  | nil => simp [verbatim] at mem
  | cons char rest induction =>
      rcases List.mem_cons.1 mem with rfl | mem
      · rfl
      · exact induction mem

namespace Source

/-- Whether an octet stands between two characters of a source, or at an end of it. -/
def IsBoundary (source : Source) (octet : Int) : Prop :=
  ∃ before after, source.text = before ++ after ∧ octet = Utf8.size before

theorem IsBoundary.inside {source : Source} {octet : Int} (boundary : source.IsBoundary octet) :
    0 ≤ octet ∧ octet ≤ source.size := by
  obtain ⟨before, after, text_eq, rfl⟩ := boundary
  rw [size_eq, text_eq, Utf8.size_append]
  omega

/-- A mark whose character stands at a location of a source. -/
def StandsAt (source : Source) (mark : Mark) (location : Location) : Prop :=
  ∃ origin placed, mark.origin = some origin ∧ placed ∈ source.places ∧
    origin.span = placed.node.span ∧ placed.locate source.id origin = location

/-- A location between boundaries of a source within a placed node. -/
structure Confines (source : Source) (placed : Placed) (location : Location) : Prop where
  file_eq : location.file = source.id
  start_le : (placed.start : Int) ≤ location.start
  start_le_stop : location.start ≤ location.stop
  stop_le : location.stop ≤ placed.stop
  starts : source.IsBoundary location.start
  stops : source.IsBoundary location.stop

section

variable {id : FileId} {tree : Node} {placed : Placed} {piece : Piece} {mark : Mark}
  {location : Location}

/-- A mark of a piece that stands for a node stands at octets of that node. -/
theorem StandsAt.of_standsFor (stands_at : (ofTree id tree).StandsAt mark location)
    (stands : piece.StandsFor placed) (mem : placed ∈ (ofTree id tree).places)
    (mark_mem : mark ∈ piece.marks) :
    ∃ origin, mark.origin = some origin ∧ placed.locate id origin = location := by
  obtain ⟨origin, other, origin_eq, other_mem, span_eq, locate_eq⟩ := stands_at
  have of_piece : mark.origin.map Origin.span = piece.span? := Piece.span_of_mem_marks mark_mem
  rw [origin_eq, stands.span_eq, Option.map_some, span_eq] at of_piece
  have found := find?_of_mem_places other_mem
  rw [Option.some.inj of_piece, find?_of_mem_places mem] at found
  obtain rfl := Option.some.inj found
  exact ⟨origin, origin_eq, locate_eq⟩

/-- What comes from no node stands nowhere. -/
theorem not_standsAt {source : Source} (no_span : piece.span? = none)
    (mark_mem : mark ∈ piece.marks) : ¬ source.StandsAt mark location := by
  rintro ⟨origin, -, origin_eq, -⟩
  rw [Piece.origin_eq_none no_span mark_mem] at origin_eq
  contradiction

/-- A node stands between boundaries. -/
theorem isBoundary_of_mem_places (mem : placed ∈ (ofTree id tree).places) :
    (ofTree id tree).IsBoundary placed.start ∧ (ofTree id tree).IsBoundary placed.stop := by
  obtain ⟨before, after, text_eq, start_eq, stop_eq⟩ := standsIn_of_mem_places mem
  constructor
  · exact ⟨before, placed.node.fullText ++ after, by rw [text_eq, List.append_assoc], by omega⟩
  · refine ⟨before ++ placed.node.fullText, after, text_eq, ?_⟩
    rw [stop_eq, start_eq, Node.size, Utf8.size_append]
    omega

/-- Nothing that a piece marks stands outside of the node that the piece stands for. -/
theorem StandsAt.confines (stands_at : (ofTree id tree).StandsAt mark location)
    (stands : piece.StandsFor placed) (mem : placed ∈ (ofTree id tree).places)
    (fits : placed.node.fitsKind = true) (mark_mem : mark ∈ piece.marks) :
    (ofTree id tree).Confines placed location := by
  obtain ⟨origin, origin_eq, rfl⟩ := stands_at.of_standsFor stands mem mark_mem
  have stop_eq := stop_of_mem_places mem
  by_cases text : placed.node.kind = .text
  · have childless := Node.childless_of_fitsKind fits (by simp [text, Kind.isProseLeaf])
    rw [stands.verbatim text] at mark_mem
    obtain ⟨left, right, text_eq, mark_origin⟩ := Mark.exists_of_mem_verbatim mark_mem
    rw [origin_eq] at mark_origin
    cases mark_origin
    obtain ⟨before, after, source_eq, start_eq, -⟩ := standsIn_of_mem_places mem
    rw [Node.size, Node.fullText_of_childless childless, text_eq] at stop_eq
    rw [Node.fullText_of_childless childless, text_eq] at source_eq
    simp only [Utf8.size_append, Utf8.size_cons] at stop_eq
    rw [Placed.locate, if_pos text]
    constructor
    case file_eq => rfl
    case start_le => simp only; omega
    case start_le_stop => simp only; omega
    case stop_le => simp only; omega
    case starts =>
      refine ⟨before ++ left, mark.char :: (right ++ after), ?_, ?_⟩
      · rw [source_eq]
        simp
      · simp only [Utf8.size_append]
        omega
    case stops =>
      refine ⟨before ++ (left ++ [mark.char]), right ++ after, ?_, ?_⟩
      · rw [source_eq]
        simp
      · simp only [Utf8.size_append, Utf8.size]
        omega
  · obtain ⟨starts, stops⟩ := isBoundary_of_mem_places mem
    rw [Placed.locate, if_neg text]
    exact ⟨rfl, Int.le_refl _, by simp only; omega, Int.le_refl _, starts, stops⟩

/-- Characters of one piece stand one after the other in a text node, and all at the same octets
elsewhere. -/
theorem follows_of_standsFor (stands : piece.StandsFor placed)
    (mem : placed ∈ (ofTree id tree).places) :
    piece.marks.Pairwise fun earlier later =>
      ∀ first second, (ofTree id tree).StandsAt earlier first →
        (ofTree id tree).StandsAt later second → second.Follows first := by
  by_cases text : placed.node.kind = .text
  · have ordered := Mark.pairwise_verbatim placed.node.span 0 placed.node.text
    have marks_eq : piece.marks = Mark.verbatim placed.node.span 0 placed.node.text := by
      rw [stands.verbatim text, Piece.marks]
    rw [← marks_eq] at ordered
    refine ordered.imp_of_mem ?_
    intro earlier later earlier_mem later_mem apart first second first_at second_at
    obtain ⟨origin, origin_eq, rfl⟩ := first_at.of_standsFor stands mem earlier_mem
    obtain ⟨other, other_eq, rfl⟩ := second_at.of_standsFor stands mem later_mem
    have stop_le := apart origin other origin_eq other_eq
    simp only [Placed.locate, if_pos text]
    right
    simp only
    omega
  · refine List.pairwise_of_forall_mem_list ?_
    intro earlier earlier_mem later later_mem first second first_at second_at
    obtain ⟨origin, -, rfl⟩ := first_at.of_standsFor stands mem earlier_mem
    obtain ⟨other, -, rfl⟩ := second_at.of_standsFor stands mem later_mem
    left
    rw [Placed.locate, Placed.locate, if_neg text, if_neg text]

end

namespace Shown

variable {id : FileId} {tree : Node} {start : Nat} {pieces : List Piece} {mark : Mark}

/-- A character of the pieces that comes from a node is of a piece that stands for that node. -/
theorem exists_standsFor (shown : (ofTree id tree).Shown start pieces)
    (mem : mark ∈ pieces.flatMap Piece.marks) {origin : Origin}
    (origin_eq : mark.origin = some origin) :
    ∃ placed ∈ (ofTree id tree).places, ∃ piece : Piece, piece.StandsFor placed ∧
      mark ∈ piece.marks ∧ origin.span = placed.node.span := by
  induction shown with
  | nil => simp at mem
  | nothing no_span shown induction =>
      rw [List.flatMap_cons] at mem
      rcases List.mem_append.1 mem with mem | mem
      · rw [Piece.origin_eq_none no_span mem] at origin_eq
        contradiction
      · exact induction mem
  | @node start piece pieces placed placed_mem stands start_le shown induction =>
      rw [List.flatMap_cons] at mem
      rcases List.mem_append.1 mem with mem | mem
      · have of_piece := Piece.span_of_mem_marks mem
        rw [origin_eq, stands.span_eq, Option.map_some] at of_piece
        exact ⟨placed, placed_mem, piece, stands, mem, Option.some.inj of_piece⟩
      · exact induction mem

/-- Nothing that the pieces mark stands before their first octet. -/
theorem exists_confines (shown : (ofTree id tree).Shown start pieces)
    (shaped : (ofTree id tree).root.isShaped = true) {location : Location}
    (mem : mark ∈ pieces.flatMap Piece.marks)
    (stands_at : (ofTree id tree).StandsAt mark location) :
    ∃ placed, start ≤ placed.start ∧ (ofTree id tree).Confines placed location := by
  induction shown with
  | nil => simp at mem
  | @nothing start piece pieces no_span shown induction =>
      rw [List.flatMap_cons] at mem
      rcases List.mem_append.1 mem with mem | mem
      · exact absurd stands_at (not_standsAt no_span mem)
      · exact induction mem
  | @node start piece pieces placed placed_mem stands start_le shown induction =>
      rw [List.flatMap_cons] at mem
      rcases List.mem_append.1 mem with mem | mem
      · have fits := Node.fitsKind_of_isShaped shaped (node_mem_of_mem_places placed_mem)
        exact ⟨placed, start_le, stands_at.confines stands placed_mem fits mem⟩
      · obtain ⟨later, stop_le, confines⟩ := induction mem
        have stop_eq := stop_of_mem_places placed_mem
        exact ⟨later, by omega, confines⟩

/-- Each character stands where an earlier one does or behind it. -/
theorem pairwise_follows (shown : (ofTree id tree).Shown start pieces)
    (shaped : (ofTree id tree).root.isShaped = true) :
    (pieces.flatMap Piece.marks).Pairwise fun earlier later =>
      ∀ first second, (ofTree id tree).StandsAt earlier first →
        (ofTree id tree).StandsAt later second → second.Follows first := by
  induction shown with
  | nil => exact .nil
  | @nothing start piece pieces no_span shown induction =>
      rw [List.flatMap_cons]
      refine List.pairwise_append.2 ⟨?_, induction, ?_⟩
      · refine List.pairwise_of_forall_mem_list ?_
        intro earlier mem later later_mem first second first_at
        exact absurd first_at (not_standsAt no_span mem)
      · intro earlier mem later later_mem first second first_at
        exact absurd first_at (not_standsAt no_span mem)
  | @node start piece pieces placed placed_mem stands start_le shown induction =>
      rw [List.flatMap_cons]
      refine List.pairwise_append.2 ⟨follows_of_standsFor stands placed_mem, induction, ?_⟩
      -- The first stands within its node, and later pieces show nodes behind the end of that one.
      intro earlier mem later later_mem first second first_at second_at
      have fits := Node.fitsKind_of_isShaped shaped (node_mem_of_mem_places placed_mem)
      have first_in := first_at.confines stands placed_mem fits mem
      obtain ⟨behind, stop_le, second_in⟩ := shown.exists_confines shaped later_mem second_at
      have := first_in.stop_le
      have := second_in.start_le
      right
      omega

end Shown
end Source
end ProseCheck
