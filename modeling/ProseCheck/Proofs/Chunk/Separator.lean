import ProseCheck.Proofs.Chunk.Ownership

/-!
# Separators

A separator is a piece that the document does not have: it stands for no text of it and comes from
no node.  No file owns a character of a separator, so what events own does not depend on the
separators among them.
-/

namespace ProseCheck
namespace Piece

/-- Whether a piece is one that the document does not have. -/
def isSeparator : Piece → Bool
  | .encoded [] _ none => true
  | .plain .. | .hidden _ | .encoded .. => false

theorem span?_of_isSeparator {piece : Piece} (separates : piece.isSeparator = true) :
    piece.span? = none := by
  unfold isSeparator at separates
  split at separates
  · rfl
  all_goals contradiction

/-- Characters of a piece that are owned when they are checked in a language. -/
def owned (interest : Option FileId) (language : String) (piece : Piece) : List OwnedChar :=
  piece.marks.filterMap (Mark.owned? interest language)

theorem owned_eq_nil {piece : Piece} (no_span : piece.span? = none) (interest : Option FileId)
    (language : String) : piece.owned interest language = [] := by
  refine List.filterMap_eq_nil_iff.2 fun mark mem => ?_
  rw [Mark.owned?, origin_eq_none no_span mem]
  rfl

end Piece

namespace Event

/-- Whether an event adds a separator. -/
def isSeparator (event : Event) : Bool := event.piece?.any Piece.isSeparator

/-- Events but for separators. -/
def unseparated (events : List Event) : List Event := events.filter fun event => !event.isSeparator

@[simp]
theorem unseparated_append (left right : List Event) :
    unseparated (left ++ right) = unseparated left ++ unseparated right :=
  List.filter_append left right

theorem unseparated_cons (event : Event) (rest : List Event) :
    unseparated (event :: rest) = unseparated [event] ++ unseparated rest :=
  unseparated_append [event] rest

variable {interest : Option FileId} {language : String}

theorem owned_piece_cons (piece : Piece) (rest : List Event) :
    owned interest language (.piece piece :: rest) =
      piece.owned interest language ++ owned interest language rest := by
  rw [owned, emissions, List.filterMap_append, List.filterMap_map, owned]
  rfl

/-- What pieces own, they own in the language in force. -/
theorem owned_pieces_append (pieces : List Piece) (rest : List Event) :
    owned interest language (pieces.map .piece ++ rest) =
      pieces.flatMap (Piece.owned interest language) ++ owned interest language rest := by
  induction pieces with
  | nil => rfl
  | cons piece pieces induction =>
      rw [List.map_cons, List.cons_append, owned_piece_cons, induction, List.flatMap_cons,
        List.append_assoc]

/-- Nothing is owned of a separator. -/
theorem owned_separator_cons {event : Event} (separates : event.isSeparator = true)
    (rest : List Event) :
    owned interest language (event :: rest) = owned interest language rest := by
  cases event with
  | piece piece =>
      rw [owned_piece_cons, Piece.owned_eq_nil (Piece.span?_of_isSeparator separates),
        List.nil_append]
  | paragraphBreak | language _ | cut => contradiction

/-- What events own does not depend on their separators. -/
theorem owned_unseparated (interest : Option FileId) (language : String) (events : List Event) :
    owned interest language (unseparated events) = owned interest language events := by
  induction events generalizing language with
  | nil => rfl
  | cons event rest induction =>
      cases separates : event.isSeparator with
      | true =>
          have dropped : unseparated (event :: rest) = unseparated rest := by
            simp [unseparated, separates]
          rw [dropped, induction, owned_separator_cons separates]
      | false =>
          have stays : unseparated (event :: rest) = event :: unseparated rest := by
            simp [unseparated, separates]
          rw [stays]
          cases event with
          | piece piece => rw [owned_piece_cons, induction, owned_piece_cons]
          | language next => exact induction next
          | paragraphBreak | cut => exact induction language

end Event
end ProseCheck
