import ProseCheck.Proofs.Source.Line
import ProseCheck.Report.Listing

/-!
# Lines that are shown

A diagnostic is shown with the lines that it is about.  The end of a line is found by leaving out
one octet in front of the next start, and the table of starts has no entry behind a last terminator
that is neither a line feed nor a carriage return.  Lines are therefore the pieces of the text where
each terminator has one octet, and the last one is a line feed or a carriage return if it ends the
text, and nowhere else.
-/

namespace ProseCheck

open Lines (Line pieces written endsOddly)

/-- A diagnostic is shown with the text from the start of its first line to the end of its last. -/
theorem Listing.snippet_eq {source : Source} {location : Location} {before shown after : Text}
    (text_eq : source.text = before ++ shown ++ after)
    (start_eq : source.lineStart? (source.lineOf location.start) = some (Utf8.size before))
    (starts : Utf8.IsBoundary source.text location.start)
    (stops : Utf8.IsBoundary source.text location.stop)
    (start_le : Utf8.size before ≤ location.start) (le : location.start ≤ location.stop)
    (le_stop : location.stop ≤ Utf8.size (before ++ shown)) :
    snippet source location (Utf8.size (before ++ shown)) = shown := by
  have first : Utf8.IsBoundary source.text (Utf8.size before) :=
    ⟨before, shown ++ after, by rw [text_eq, List.append_assoc], rfl⟩
  have last : Utf8.IsBoundary source.text (Utf8.size (before ++ shown)) := ⟨_, after, text_eq, rfl⟩
  rw [snippet, start_eq, Option.getD_some, Int.max_eq_left le_stop,
    Source.slice_append first starts stops start_le le,
    Source.slice_append first stops last (by omega) le_stop, Source.slice_eq text_eq]

namespace Source

variable {source : Source} {before after : List Line} {line : Line}

/-- A piece of the text starts a line, unless it is the place behind an odd last terminator. -/
theorem lineStart?_of_pieces (pieces_eq : pieces source.text = before ++ line :: after)
    (listed : endsOddly source.text = false ∨ after ≠ []) :
    source.lineStart? before.length = some (Utf8.size (written before)) := by
  have found := Lines.getElem?_begins 0 before after line
  rw [lineStart?, if_pos (by omega), Int.toNat_natCast, source.lineStarts_eq, Lines.starts_eq,
    pieces_eq]
  split
  · rename_i odd
    have inside : before.length < (Lines.begins 0
        ((before ++ line :: after).map Line.written)).length - 1 := by
      have after_pos := List.length_pos_iff.2 (listed.resolve_left (by simp [odd]))
      simp only [Lines.length_begins, List.length_map, List.length_append, List.length_cons]
      omega
    rw [List.getElem?_dropLast, if_pos inside, found, Nat.zero_add]
  · rw [found, Nat.zero_add]

/-- The line behind a piece starts behind its terminator. -/
theorem lineStart?_succ_of_pieces {next : Line}
    (pieces_eq : pieces source.text = before ++ line :: next :: after)
    (listed : endsOddly source.text = false ∨ after ≠ []) :
    source.lineStart? (before.length + 1) =
      some (Utf8.size (written before) + Utf8.size line.written) := by
  have moved : pieces source.text = before ++ [line] ++ next :: after := by
    rw [pieces_eq, List.append_assoc, List.singleton_append]
  have found := lineStart?_of_pieces moved listed
  simpa using found

/-- There are as many lines as pieces, but for the place behind an odd last terminator. -/
theorem length_lineStarts (source : Source) :
    source.lineStarts.length =
      if endsOddly source.text then Lines.terminators source.text
      else Lines.terminators source.text + 1 := by
  rw [source.lineStarts_eq, Lines.starts_eq]
  split <;> simp [Lines.length_pieces]

/-- A line exists if it starts somewhere. -/
theorem isSome_lineRange? (source : Source) (line : Int) :
    (source.lineRange? line).isSome = true ↔ 0 ≤ line ∧ line < source.lineStarts.length := by
  rw [lineRange?, Option.isSome_map, lineStart?]
  split
  · rw [isSome_getElem?]
    omega
  · simp only [Option.isSome_none, Bool.false_eq_true, false_iff]
    omega

/-- The last line ends with the text. -/
theorem lineRange?_of_lineStart? {number start : Nat}
    (start_eq : source.lineStart? number = some start)
    (length_eq : source.lineStarts.length = number + 1) :
    source.lineRange? number = some (start, source.size) := by
  have no_next : source.lineStart? (number + 1) = none := by
    rw [lineStart?, if_pos (by omega), List.getElem?_eq_none_iff]
    omega
  rw [lineRange?, start_eq, Option.map_some, no_next]

/-- A line that another one follows ends one octet in front of that one. -/
theorem lineRange?_of_followed {next : Line}
    (pieces_eq : pieces source.text = before ++ line :: next :: after)
    (listed : endsOddly source.text = false ∨ after ≠ []) :
    source.lineRange? before.length =
      some (Utf8.size (written before), Utf8.size (written before ++ line.written) - 1) := by
  have written_pos : 0 < Utf8.size line.written :=
    Utf8.size_pos (List.append_ne_nil_of_right_ne_nil _ (Lines.isEnding_of_pieces pieces_eq).ne_nil)
  rw [lineRange?, lineStart?_of_pieces pieces_eq (.inr (List.cons_ne_nil _ _)), Option.map_some,
    lineStart?_succ_of_pieces pieces_eq listed]
  simp [written_pos]

/-- The last piece is a line, unless it is the place behind an odd last terminator. -/
theorem lineRange?_of_last (pieces_eq : pieces source.text = before ++ [line])
    (even : endsOddly source.text = false) :
    source.lineRange? before.length =
      some (Utf8.size (written before), Utf8.size (written before ++ line.body)) := by
  have length_eq : source.lineStarts.length = before.length + 1 := by
    rw [length_lineStarts, even, if_neg Bool.false_ne_true, ← Lines.length_pieces, pieces_eq,
      List.length_append, List.length_singleton]
  rw [lineRange?_of_lineStart? (lineStart?_of_pieces pieces_eq (.inl even)) length_eq, size_eq]
  rw [Lines.eq_of_pieces pieces_eq, Lines.ending_of_pieces pieces_eq]
  simp

/-- An odd last terminator belongs to the line in front of it. -/
theorem lineRange?_of_endsOddly {next : Line}
    (pieces_eq : pieces source.text = before ++ [line, next])
    (odd : endsOddly source.text = true) :
    source.lineRange? before.length =
      some (Utf8.size (written before), Utf8.size (written before ++ line.written)) := by
  have length_eq : source.lineStarts.length = before.length + 1 := by
    have pieces_length := Lines.length_pieces source.text
    rw [pieces_eq, List.length_append] at pieces_length
    rw [length_lineStarts, if_pos odd]
    simpa using pieces_length.symm
  have moved : pieces source.text = before ++ [line] ++ [next] := by
    rw [pieces_eq, List.append_assoc, List.singleton_append]
  have nothing : next.written = [] := Lines.written_eq_nil_of_endsOddly moved odd
  have text_eq := Lines.eq_of_pieces pieces_eq
  rw [Lines.written_cons, nothing, Lines.written_nil] at text_eq
  have start_eq := lineStart?_of_pieces pieces_eq (.inr (List.cons_ne_nil _ _))
  rw [lineRange?_of_lineStart? start_eq length_eq, size_eq, text_eq]
  simp [Line.written]

/-- A line holds its piece, and no more of the text than the terminator of the piece. -/
theorem exists_lineRange?_of_pieces (pieces_eq : pieces source.text = before ++ line :: after)
    (listed : endsOddly source.text = false ∨ after ≠ []) :
    ∃ stop, source.lineRange? before.length = some (Utf8.size (written before), stop) ∧
      Utf8.size (written before ++ line.body) ≤ stop ∧
      stop ≤ Utf8.size (written before ++ line.written) := by
  have body_le : Utf8.size (written before ++ line.body) ≤
      Utf8.size (written before ++ line.written) := by
    rw [Line.written, ← List.append_assoc, Utf8.size_append _ line.ending]
    omega
  cases after with
  | nil =>
      have even := listed.resolve_right (absurd rfl)
      exact ⟨_, lineRange?_of_last pieces_eq even, Nat.le_refl _, body_le⟩
  | cons next more =>
      by_cases next_listed : endsOddly source.text = false ∨ more ≠ []
      · refine ⟨_, lineRange?_of_followed pieces_eq next_listed, ?_, Nat.sub_le _ _⟩
        have ending_pos := Utf8.size_pos (Lines.isEnding_of_pieces pieces_eq).ne_nil
        rw [Line.written, ← List.append_assoc, Utf8.size_append _ line.ending]
        omega
      · obtain ⟨odd, rfl⟩ : endsOddly source.text = true ∧ more = [] := by
          simpa using next_listed
        exact ⟨_, lineRange?_of_endsOddly pieces_eq odd, body_le, Nat.le_refl _⟩

/-- Whether a diagnostic at a location is shown with pieces of the text: with those from the line of
its start to the line of its end, all with their terminators but the last one. -/
def ShowsPieces (source : Source) (location : Location) : Prop :=
  ∃ start stop, source.lineRange? (source.lineOf location.stop) = some (start, stop) ∧
    ∃ front shown line rest, pieces source.text = front ++ shown ++ line :: rest ∧
      source.lineOf location.start = front.length ∧
      source.lineOf location.stop = (front ++ shown).length ∧ line.IsPlain ∧
      Listing.snippet source location stop = written shown ++ line.body

/-- Whether the lines of a source are the pieces of its text.  There is one line more than
terminators, each line is a piece without its terminator, with both ends between characters, and
diagnostics are shown with pieces. -/
structure HasPieces (source : Source) : Prop where
  exists_iff : ∀ line : Int, (source.lineRange? line).isSome = true ↔
    0 ≤ line ∧ line < Lines.terminators source.text + 1
  range_eq : ∀ before line after, pieces source.text = before ++ line :: after →
    source.lineRange? before.length =
      some (Utf8.size (written before), Utf8.size (written before ++ line.body))
  isBoundary : ∀ line start stop, source.lineRange? line = some (start, stop) →
    Utf8.IsBoundary source.text start ∧ Utf8.IsBoundary source.text stop
  showsPieces : ∀ location : Location, Utf8.IsBoundary source.text location.start →
    Utf8.IsBoundary source.text location.stop → location.start ≤ location.stop →
      source.ShowsPieces location

section

variable (even : endsOddly source.text = false)
  (short : ∀ line ∈ pieces source.text, Utf8.size line.ending ≤ 1)
include even short

/-- Where each terminator has one octet and no start is missing, lines are the pieces. -/
theorem range_of_short (pieces_eq : pieces source.text = before ++ line :: after) :
    source.lineRange? before.length =
      some (Utf8.size (written before), Utf8.size (written before ++ line.body)) := by
  cases after with
  | nil => exact lineRange?_of_last pieces_eq even
  | cons next more =>
      have short := short line (by simp [pieces_eq])
      have ending_pos := Utf8.size_pos (Lines.isEnding_of_pieces pieces_eq).ne_nil
      rw [lineRange?_of_followed pieces_eq (.inl even), Line.written, ← List.append_assoc,
        Utf8.size_append _ line.ending]
      congr 2
      omega

/-- Each octet stands on the line of a piece, not behind the piece. -/
theorem exists_piece_of_isBoundary {offset : Int} (boundary : Utf8.IsBoundary source.text offset) :
    ∃ before line after, pieces source.text = before ++ line :: after ∧
      source.lineOf offset = before.length ∧
      source.lineStart? (source.lineOf offset) = some (Utf8.size (written before)) ∧
      (Utf8.size (written before) : Int) ≤ offset ∧
      offset ≤ Utf8.size (written before ++ line.body) := by
  have bounds : 0 ≤ offset ∧ offset ≤ Utf8.size source.text := by
    obtain ⟨front, back, text_eq, rfl⟩ := boundary
    rw [text_eq, Utf8.size_append]
    omega
  obtain ⟨front, start, back, stands⟩ := source.exists_standsOn bounds.1
  have inside : front.length < (pieces source.text).length := by
    have length_eq := source.length_lineStarts
    rw [stands.lineStarts_eq, List.length_append, List.length_cons, even,
      if_neg Bool.false_ne_true, ← Lines.length_pieces] at length_eq
    omega
  obtain ⟨before, line, after, pieces_eq, length_eq⟩ := Slice.exists_split inside
  have start_eq := lineStart?_of_pieces pieces_eq (.inl even)
  rw [length_eq, ← stands.lineOf_eq] at start_eq
  have same_start := stands.lineStart?_eq.symm.trans start_eq
  obtain rfl := Option.some.inj same_start
  refine ⟨before, line, after, pieces_eq, by rw [stands.lineOf_eq, length_eq], start_eq,
    stands.start_le, ?_⟩
  cases after with
  | nil =>
      have stop_le := bounds.2
      rw [Lines.eq_of_pieces pieces_eq, Lines.ending_of_pieces pieces_eq] at stop_le
      simpa using stop_le
  | cons next more =>
      have short := short line (by simp [pieces_eq])
      have next_eq := lineStart?_succ_of_pieces pieces_eq (.inl even)
      rw [length_eq] at next_eq
      have lt_next := stands.lt_of_lineStart?_succ next_eq
      rw [Line.written, Utf8.size_append] at lt_next
      rw [Utf8.size_append]
      omega

theorem isBoundary_of_short {number : Int} {start stop : Nat}
    (found : source.lineRange? number = some (start, stop)) :
    Utf8.IsBoundary source.text start ∧ Utf8.IsBoundary source.text stop := by
  have inside := (isSome_lineRange? source number).1 (by rw [found]; rfl)
  rw [length_lineStarts, even, if_neg Bool.false_ne_true, ← Lines.length_pieces] at inside
  obtain ⟨place, rfl⟩ := Int.eq_ofNat_of_zero_le inside.1
  obtain ⟨before, line, after, pieces_eq, rfl⟩ := Slice.exists_split (Int.ofNat_lt.1 inside.2)
  rw [range_of_short even short pieces_eq] at found
  obtain ⟨rfl, rfl⟩ := Prod.mk.inj (Option.some.inj found)
  have text_eq := Lines.eq_of_pieces pieces_eq
  exact ⟨⟨_, _, by rw [text_eq, List.append_assoc], rfl⟩, _, _, text_eq, rfl⟩

theorem showsPieces_of_short {location : Location}
    (starts : Utf8.IsBoundary source.text location.start)
    (stops : Utf8.IsBoundary source.text location.stop) (le : location.start ≤ location.stop) :
    source.ShowsPieces location := by
  obtain ⟨front, first, rest, first_eq, start_line, start_eq, start_le, -⟩ :=
    exists_piece_of_isBoundary even short starts
  obtain ⟨before, line, after, pieces_eq, stop_line, -, -, stop_le⟩ :=
    exists_piece_of_isBoundary even short stops
  have front_prefix : front <+: before := by
    have lines_le := source.lineOf_mono le
    rw [start_line, stop_line] at lines_le
    have front_in : front <+: pieces source.text := ⟨_, first_eq.symm⟩
    exact List.prefix_of_prefix_length_le front_in ⟨_, pieces_eq.symm⟩ (by omega)
  obtain ⟨shown, rfl⟩ := front_prefix
  refine ⟨_, _, by rw [stop_line, range_of_short even short pieces_eq], front, shown, line, after,
    pieces_eq, start_line, stop_line, Lines.isPlain_of_pieces pieces_eq, ?_⟩
  have text_eq := Lines.eq_of_pieces pieces_eq
  rw [Lines.written_append, List.append_assoc (written front)] at text_eq stop_le ⊢
  exact Listing.snippet_eq text_eq start_eq starts stops start_le le stop_le

theorem hasPieces_of_short : source.HasPieces where
  exists_iff := by
    intro line
    rw [isSome_lineRange?, length_lineStarts, even]
    simp
  range_eq := fun _ _ _ => range_of_short even short
  isBoundary := fun _ _ _ => isBoundary_of_short even short
  showsPieces := fun _ => showsPieces_of_short even short

end

theorem short_of_hasPieces (has : source.HasPieces) :
    endsOddly source.text = false ∧ ∀ line ∈ pieces source.text, Utf8.size line.ending ≤ 1 := by
  have even : endsOddly source.text = false := by
    rw [Bool.eq_false_iff]
    intro odd
    have last := has.exists_iff (Lines.terminators source.text)
    rw [isSome_lineRange?, length_lineStarts, odd, if_pos rfl] at last
    omega
  refine ⟨even, fun line mem => ?_⟩
  obtain ⟨before, after, pieces_eq⟩ := List.append_of_mem mem
  cases after with
  | nil =>
      rw [Lines.ending_of_pieces pieces_eq, Utf8.size_nil]
      omega
  | cons next more =>
      have range_eq := has.range_eq before line (next :: more) pieces_eq
      rw [lineRange?_of_followed pieces_eq (.inl even), Line.written] at range_eq
      have stop_eq := (Prod.mk.inj (Option.some.inj range_eq)).2
      simp only [Utf8.size_append] at stop_eq
      omega

/-- Lines are the pieces of the text between terminators where each terminator has one octet, and a
terminator that ends the text is a line feed or a carriage return.  Everywhere else they differ from
the pieces, in their number or in where one of them ends.  Still, whatever the terminators are, each
line starts with its piece and holds all of it, with at most the terminator behind; only the place
behind a last terminator that is neither a line feed nor a carriage return is no line. -/
theorem lines_are_pieces_iff (source : Source) :
    (∀ before line after, pieces source.text = before ++ line :: after →
      endsOddly source.text = false ∨ after ≠ [] →
        ∃ stop, source.lineRange? before.length = some (Utf8.size (written before), stop) ∧
          Utf8.size (written before ++ line.body) ≤ stop ∧
          stop ≤ Utf8.size (written before ++ line.written)) ∧
    (source.HasPieces ↔
      endsOddly source.text = false ∧
        ∀ line ∈ pieces source.text, Utf8.size line.ending ≤ 1) := by
  refine ⟨fun before line after => exists_lineRange?_of_pieces, short_of_hasPieces, ?_⟩
  rintro ⟨even, short⟩
  exact hasPieces_of_short even short

/-- Two lines that end in line feeds. -/
def fed : Source := .ofTree "main" (.inner .markup [.leaf .text ['é', '\n', 'b', '\n']])

theorem lines_are_pieces_iff_fed :
    fed.HasPieces ∧ fed.lineRange? 0 = some (0, 2) ∧ fed.lineRange? 1 = some (3, 4) ∧
      fed.lineRange? 2 = some (5, 5) := by
  have short : endsOddly fed.text = false ∧
      ∀ line ∈ pieces fed.text, Utf8.size line.ending ≤ 1 := by decide +kernel
  exact ⟨(lines_are_pieces_iff fed).2.2 short, by decide +kernel, by decide +kernel,
    by decide +kernel⟩

/-- Two lines with a line separator between them, which has three octets. -/
def separated : Source := .ofTree "main" (.inner .markup [.leaf .text ['a', '\u2028', 'b']])

/-- So it is not so that the lines of all sources are the pieces of their texts. -/
theorem line_holds_terminator : ¬ ∀ source : Source, source.HasPieces := by
  intro all_pieces
  have piece_eq := (all_pieces separated).range_eq [] ⟨['a'], ['\u2028']⟩ [⟨['b'], []⟩] rfl
  have range_eq : separated.lineRange? 0 = some (0, 3) := by decide +kernel
  have same := range_eq.symm.trans piece_eq
  contradiction

end Source
end ProseCheck
