import ProseCheck.Chunk.Piece

/-!
# Marked characters

A mark is a character of a stream together with its origin.  Pieces mark the characters that they
emit, and entries mark the characters of their run.  Joining runs changes no mark, so looking a
place up in the position map of some pieces gives back the mark that its piece set there.
-/

namespace ProseCheck

/-- A character of a stream and where it comes from. -/
structure Mark where
  /-- The character. -/
  char : Char
  /-- Whether its run is exact. -/
  exact : Bool
  /-- Octets that it comes from. -/
  origin : Option Origin
deriving DecidableEq, Repr

namespace Mark

/-- Characters that stand in a node as they are, the first one at octet `offset`. -/
def verbatim (span : Span) (offset : Int) : Text → List Mark
  | [] => []
  | char :: rest =>
    ⟨char, true, some ⟨span, offset, offset + Utf8.width char⟩⟩
      :: verbatim span (offset + Utf8.width char) rest

/-- Characters of one common origin. -/
def uniform (exact : Bool) (origin : Option Origin) (text : Text) : List Mark :=
  text.map fun char => ⟨char, exact, origin⟩

@[simp]
theorem map_char_verbatim (span : Span) (offset : Int) (text : Text) :
    (verbatim span offset text).map char = text := by
  induction text generalizing offset with
  | nil => rfl
  | cons char rest induction => simp [verbatim, induction]

/-- Octets of a later text are counted from the end of an earlier one. -/
theorem verbatim_append (span : Span) (offset : Int) (left right : Text) :
    verbatim span offset (left ++ right) =
      verbatim span offset left ++ verbatim span (offset + Utf8.size left) right := by
  induction left generalizing offset with
  | nil => simp [verbatim]
  | cons char rest induction =>
      simp [verbatim, induction, Int.add_assoc]

theorem getElem?_verbatim (span : Span) (offset : Int) (text : Text) (index : Nat) :
    (verbatim span offset text)[index]? =
      text[index]?.map fun char =>
        ⟨char, true, some
          ⟨span, offset + Utf8.size (text.take index),
            offset + Utf8.size (text.take index) + Utf8.width char⟩⟩ := by
  induction text generalizing offset index with
  | nil => simp [verbatim]
  | cons char rest induction =>
      cases index with
      | zero => simp [verbatim]
      | succ index =>
          simp only [verbatim, List.getElem?_cons_succ, List.take_succ_cons, Utf8.size_cons]
          rw [induction]
          simp [Int.add_assoc]

theorem exists_of_mem_verbatim {span : Span} {offset : Int} {text : Text} {mark : Mark}
    (mem : mark ∈ verbatim span offset text) :
    ∃ left right, text = left ++ mark.char :: right ∧
      mark.origin = some
        ⟨span, offset + Utf8.size left, offset + Utf8.size left + Utf8.width mark.char⟩ := by
  induction text generalizing offset with
  | nil => simp [verbatim] at mem
  | cons char rest induction =>
      rcases List.mem_cons.1 mem with rfl | mem
      · exact ⟨[], rest, rfl, by simp⟩
      · obtain ⟨left, right, rest_eq, origin_eq⟩ := induction mem
        refine ⟨char :: left, right, by rw [rest_eq, List.cons_append], ?_⟩
        rw [origin_eq, Utf8.size_cons]
        simp [Int.add_assoc]

/-- No two characters of a text have the same octets. -/
theorem nodup_origins_verbatim (span : Span) (offset : Int) (text : Text) :
    ((verbatim span offset text).map origin).Nodup := by
  induction text generalizing offset with
  | nil => exact List.nodup_nil
  | cons char rest induction =>
      rw [verbatim, List.map_cons]
      refine List.nodup_cons.2 ⟨fun mem => ?_, induction _⟩
      obtain ⟨mark, mark_mem, same⟩ := List.mem_map.1 mem
      obtain ⟨left, right, -, origin_eq⟩ := exists_of_mem_verbatim mark_mem
      have starts := congrArg Origin.start (Option.some.inj (origin_eq.symm.trans same))
      have width_pos := Utf8.width_pos char
      simp only at starts
      omega

@[simp]
theorem map_char_uniform (exact : Bool) (origin : Option Origin) (text : Text) :
    (uniform exact origin text).map char = text := by
  simp [uniform, Function.comp_def]

end Mark

namespace Entry

/-- The characters of a run with their origins. -/
def marks (entry : Entry) (own : Text) : List Mark :=
  match entry.span with
  | none => Mark.uniform entry.exact none own
  | some span =>
    if entry.exact then Mark.verbatim span entry.offset own
    else Mark.uniform false (some ⟨span, entry.offset, entry.offset + entry.sourceLength⟩) own

@[simp]
theorem map_char_marks (entry : Entry) (own : Text) : (entry.marks own).map Mark.char = own := by
  unfold marks
  split
  · simp
  · split <;> simp

@[simp]
theorem length_marks (entry : Entry) (own : Text) : (entry.marks own).length = own.length := by
  rw [← List.length_map Mark.char, map_char_marks]

/-- A run that continues another one marks its characters as before when both are joined. -/
theorem marks_join {last next : Entry} (continues : last.continues next = true) {left right : Text}
    (sized : last.sourceLength = Utf8.size left) :
    (last.join next).marks (left ++ right) = last.marks left ++ next.marks right := by
  simp only [Entry.continues, Bool.and_eq_true, beq_iff_eq, Option.isSome_iff_exists] at continues
  obtain ⟨⟨⟨⟨⟨last_exact, next_exact⟩, span, last_span⟩, same_span⟩, -⟩, offsets⟩ := continues
  have next_span : next.span = some span := same_span ▸ last_span
  simp only [marks, join, last_span, next_span, last_exact, next_exact, if_true]
  rw [Mark.verbatim_append, ← offsets, sized]

end Entry

namespace Piece

/-- The characters that a piece emits, with their origins. -/
def marks : Piece → List Mark
  | .plain written none _ => Mark.uniform true none written
  | .plain written (some span) offset => Mark.verbatim span offset written
  | .hidden _ => []
  | .encoded written substitute span =>
    Mark.uniform false (span.map fun span => ⟨span, 0, Utf8.size written⟩) substitute

@[simp]
theorem map_char_marks (piece : Piece) : piece.marks.map Mark.char = piece.emitted := by
  rcases piece with ⟨written, _ | span, offset⟩ | written | ⟨written, substitute, span⟩ <;>
    simp [marks, emitted]

@[simp]
theorem length_marks (piece : Piece) : piece.marks.length = piece.emitted.length := by
  rw [← map_char_marks, List.length_map]

/-- Each mark of some pieces is set by one of them, behind those of the pieces before. -/
theorem exists_of_getElem?_marks {pieces : List Piece} {index : Nat} {mark : Mark}
    (found : (pieces.flatMap marks)[index]? = some mark) :
    ∃ before piece after place, pieces = before ++ piece :: after ∧
      piece.marks[place]? = some mark ∧ index = (stream before).length + place := by
  induction pieces generalizing index with
  | nil => simp at found
  | cons piece rest induction =>
      rw [List.flatMap_cons] at found
      by_cases inside : index < piece.marks.length
      · rw [List.getElem?_append_left inside] at found
        exact ⟨[], piece, rest, index, rfl, found, by simp [stream]⟩
      · rw [List.getElem?_append_right (Nat.not_lt.1 inside)] at found
        obtain ⟨before, other, after, place, rfl, marked, index_eq⟩ := induction found
        refine ⟨piece :: before, other, after, place, rfl, marked, ?_⟩
        have length_eq : (stream (piece :: before)).length =
            piece.marks.length + (stream before).length := by
          simp [stream]
        omega

/-- A mark of one of some pieces stands behind those of the pieces before. -/
theorem getElem?_marks_behind (before after : List Piece) {piece : Piece} {place : Nat}
    {mark : Mark} (marked : piece.marks[place]? = some mark) :
    ((before ++ piece :: after).flatMap marks)[(stream before).length + place]? = some mark := by
  obtain ⟨inside, -⟩ := List.getElem?_eq_some_iff.1 marked
  have before_length : (stream before).length = (before.flatMap marks).length := by
    simp [stream, List.length_flatMap]
  rw [List.flatMap_append, List.flatMap_cons, before_length,
    List.getElem?_append_right (by omega), Nat.add_sub_cancel_left,
    List.getElem?_append_left inside, marked]

theorem marks_entry (piece : Piece) (start : Nat) :
    (piece.entry start).marks piece.emitted = piece.marks := by
  rcases piece with ⟨written, _ | span, offset⟩ | written | ⟨written, substitute, _ | span⟩ <;>
    simp [marks, Entry.marks, entry, emitted, Mark.uniform]

end Piece
end ProseCheck
