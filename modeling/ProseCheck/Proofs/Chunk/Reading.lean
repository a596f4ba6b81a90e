import ProseCheck.Proofs.Chunk.Mark

/-!
# Reading position maps

The entries of a position map read as marks if they cover the stream run after run.  Pushing an
entry onto such entries reads its run at the end, whether or not it joins the last one, and each
look-up in them gives the mark of its place.
-/

namespace ProseCheck

/-- Entries that cover marked characters from the first one on, run after run. -/
inductive Reads : List Entry → List Mark → Prop where
  | nil : Reads [] []
  | snoc {entries : List Entry} {marks : List Mark} {entry : Entry} {own : Text} :
      Reads entries marks →
      own ≠ [] →
      entry.start = marks.length →
      entry.length = own.length →
      (entry.exact = true → entry.sourceLength = Utf8.size own) →
      Reads (entries ++ [entry]) (marks ++ entry.marks own)

namespace Reads

variable {entries : List Entry} {marks : List Mark}

/-- Pushing an entry reads its run after the others. -/
theorem push (reads : Reads entries marks) {entry : Entry} {own : Text}
    (start_eq : entry.start = marks.length) (length_eq : entry.length = own.length)
    (sized : entry.exact = true → entry.sourceLength = Utf8.size own) :
    Reads (entry.push entries) (marks ++ entry.marks own) := by
  by_cases empty : own = []
  · subst empty
    have no_marks : entry.marks [] = [] := List.eq_nil_of_length_eq_zero (by simp)
    simpa [Entry.push, length_eq, no_marks] using reads
  · have length_ne : entry.length ≠ 0 := by
      have := List.length_pos_iff.2 empty
      omega
    have apart : Reads (entries ++ [entry]) (marks ++ entry.marks own) :=
      .snoc reads empty start_eq length_eq sized
    cases reads with
    | nil => simpa [Entry.push, length_ne] using apart
    | @snoc earlier before last joined reads nonempty last_start last_length last_sized =>
        simp only [Entry.push, length_ne, if_false, List.getLast?_concat]
        split
        · rename_i continues
          have last_exact : last.exact = true := by
            simp only [Entry.continues, Bool.and_eq_true] at continues
            exact continues.1.1.1.1.1
          have entry_exact : entry.exact = true := by
            simp only [Entry.continues, Bool.and_eq_true] at continues
            exact continues.1.1.1.1.2
          rw [List.dropLast_concat, List.append_assoc,
            ← Entry.marks_join continues (last_sized last_exact)]
          refine .snoc reads (by simp [nonempty]) last_start ?_ fun _ => ?_
          · simp [Entry.join, last_length, length_eq]
          · simp [Entry.join, last_sized last_exact, sized entry_exact]
        · exact apart

theorem mem_bounds (reads : Reads entries marks) {entry : Entry} (mem : entry ∈ entries) :
    0 ≤ entry.start ∧ 0 < entry.length ∧ entry.stop ≤ marks.length := by
  induction reads with
  | nil => simp at mem
  | @snoc entries marks last own reads nonempty start_eq length_eq sized induction =>
      have := List.length_pos_iff.2 nonempty
      rcases List.mem_append.1 mem with earlier | latest
      · have := induction earlier
        simp only [List.length_append, Entry.length_marks]
        omega
      · obtain rfl := List.mem_singleton.1 latest
        simp only [Entry.stop, List.length_append, Entry.length_marks]
        omega

/-- The run of a place, and what stands before and after it. -/
theorem exists_run (reads : Reads entries marks) {index : Nat} (inside : index < marks.length) :
    ∃ front entry back before own after,
      entries = front ++ entry :: back ∧
        marks = before ++ entry.marks own ++ after ∧
        entry.start = (before.length : Int) ∧ entry.length = (own.length : Int) ∧
        before.length ≤ index ∧ index < before.length + own.length ∧
        (∀ earlier ∈ front, earlier.start ≤ (before.length : Int)) ∧
        ∀ later ∈ back, ((before.length + own.length : Nat) : Int) ≤ later.start := by
  induction reads with
  | nil => simp at inside
  | @snoc entries marks last run reads nonempty start_eq length_eq sized induction =>
      by_cases earlier : index < marks.length
      · obtain ⟨front, entry, back, before, own, after, rfl, rfl, entry_start, entry_length,
          before_le, lt_own, front_le, le_back⟩ := induction earlier
        refine ⟨front, entry, back ++ [last], before, own, after ++ last.marks run, by simp,
          by simp, entry_start, entry_length, before_le, lt_own, front_le, ?_⟩
        intro later mem
        rcases List.mem_append.1 mem with mem | mem
        · exact le_back later mem
        · obtain rfl := List.mem_singleton.1 mem
          simp only [start_eq, List.length_append, Entry.length_marks]
          omega
      · refine ⟨entries, last, [], marks, run, [], rfl, by simp, start_eq, length_eq, by omega,
          by simpa using inside, fun entry mem => ?_, by simp⟩
        have := reads.mem_bounds mem
        simp only [Entry.stop] at this
        omega

end Reads

namespace PositionMap

/-- The search by halves finds the last run that does not start after a place. -/
theorem entryAt?_eq (map : PositionMap) {front back : List Entry} {entry : Entry}
    (entries_eq : map.entries = front ++ entry :: back) {index : Int}
    (front_le : ∀ earlier ∈ front, earlier.start ≤ index) (start_le : entry.start ≤ index)
    (lt_back : ∀ later ∈ back, index < later.start) :
    map.entryAt? index = if index < entry.stop then some entry else none := by
  have found : Bisect.firstFailure
      (fun place => map.entries[place]?.any fun entry => entry.start ≤ index) 0
      map.entries.length = front.length + 1 := by
    refine Bisect.firstFailure_eq _ (Nat.zero_le _) (by simp [entries_eq]) ?_ ?_
    · intro place _ place_lt
      rcases Nat.lt_or_ge place front.length with inside | beyond
      · rw [entries_eq, List.getElem?_append_left inside, List.getElem?_eq_getElem inside]
        simpa using front_le _ (List.getElem_mem inside)
      · obtain rfl : place = front.length := by omega
        simpa [entries_eq] using start_le
    · intro place place_ge place_lt
      obtain ⟨rest, rfl⟩ := Nat.exists_eq_add_of_le place_ge
      have inside : rest < back.length := by
        simp only [entries_eq, List.length_append, List.length_cons] at place_lt
        omega
      rw [entries_eq, List.getElem?_append_right (by omega),
        show front.length + 1 + rest - front.length = rest + 1 by omega,
        List.getElem?_cons_succ, List.getElem?_eq_getElem inside]
      simpa using lt_back _ (List.getElem_mem inside)
  unfold entryAt?
  simp only [found]
  rw [entries_eq, List.getElem?_append_right (Nat.le_refl _), Nat.sub_self,
    List.getElem?_cons_zero]
  simp [Option.filter]

/-- No run holds a place before the first. -/
theorem entryAt?_eq_none (map : PositionMap) {index : Int}
    (lt_start : ∀ entry ∈ map.entries, index < entry.start) : map.entryAt? index = none := by
  have found : Bisect.firstFailure
      (fun place => map.entries[place]?.any fun entry => entry.start ≤ index) 0
      map.entries.length = 0 := by
    refine Bisect.firstFailure_eq _ (Nat.le_refl _) (Nat.zero_le _) (by omega) ?_
    intro place _ inside
    rw [List.getElem?_eq_getElem inside]
    simpa using lt_start _ (List.getElem_mem inside)
  unfold entryAt?
  simp only [found]

/-- Entries that read as marks hold only places of the stream. -/
theorem inside_of_entryAt? (map : PositionMap) {marks : List Mark}
    (reads : Reads map.entries marks) {index : Int} {entry : Entry}
    (holds : map.entryAt? index = some entry) : 0 ≤ index ∧ index < marks.length := by
  by_cases negative : index < 0
  · have none_holds : map.entryAt? index = none := map.entryAt?_eq_none fun entry mem => by
      have := (reads.mem_bounds mem).1
      omega
    simp [none_holds] at holds
  · refine ⟨Int.not_lt.1 negative, Int.not_le.1 fun beyond => ?_⟩
    rcases List.eq_nil_or_concat map.entries with empty | ⟨front, last, entries_eq⟩
    · have none_holds : map.entryAt? index = none := map.entryAt?_eq_none (by simp [empty])
      simp [none_holds] at holds
    · rw [List.concat_eq_append] at entries_eq
      have bounds : ∀ entry ∈ front ++ [last], entry.start ≤ index ∧ entry.stop ≤ index := by
        intro entry mem
        have := reads.mem_bounds (entries_eq ▸ mem)
        simp only [Entry.stop] at this ⊢
        omega
      rw [map.entryAt?_eq entries_eq (fun earlier mem => (bounds earlier (by simp [mem])).1)
        (bounds last (by simp)).1 (by simp), if_neg (Int.not_lt.2 (bounds last (by simp)).2)]
        at holds
      simp at holds

theorem sizeBetween_eq (map : PositionMap) {before own after : Text}
    (stream_eq : map.stream = before ++ own ++ after) {count : Nat} (le_own : count ≤ own.length) :
    map.sizeBetween before.length ((before.length + count : Nat) : Int) =
      Utf8.size (own.take count) := by
  rw [sizeBetween, Slice.between_natCast, stream_eq]
  congr 1
  rw [show min before.length (before ++ own ++ after).length = before.length by
      simp only [List.length_append]
      omega,
    List.append_assoc, List.take_length_add_append, List.drop_left,
    List.take_append_of_le_length le_own]

section

variable (map : PositionMap) {index : Int} {entry : Entry}

theorem resolve_of_sourceless (holds : map.entryAt? index = some entry)
    (span_eq : entry.span = none) : map.resolve index = .ok none := by
  simp [resolve, holds, span_eq]

theorem resolve_of_coarse (holds : map.entryAt? index = some entry) {span : Span}
    (span_eq : entry.span = some span) (coarse : entry.exact = false) :
    map.resolve index =
      .ok (some ⟨span, entry.offset, entry.offset + entry.sourceLength⟩) := by
  simp [resolve, holds, span_eq, coarse]

theorem resolve_of_exact (holds : map.entryAt? index = some entry) {span : Span}
    (span_eq : entry.span = some span) (exact_eq : entry.exact = true) {char : Char}
    (stands : Slice.item? map.stream index = some char) :
    map.resolve index =
      .ok (some
        ⟨span, entry.offset + map.sizeBetween entry.start index,
          entry.offset + map.sizeBetween entry.start index + Utf8.width char⟩) := by
  simp [resolve, holds, span_eq, exact_eq, stands]

end

/-- Looking a place up gives the mark of the place. -/
theorem resolve_of_reads (map : PositionMap) {marks : List Mark} (reads : Reads map.entries marks)
    (stream_eq : map.stream = marks.map Mark.char) {index : Nat} {mark : Mark}
    (found : marks[index]? = some mark) :
    ∃ entry, map.entryAt? index = some entry ∧ entry.exact = mark.exact ∧
      map.resolve index = .ok mark.origin := by
  obtain ⟨inside, -⟩ := List.getElem?_eq_some_iff.1 found
  obtain ⟨front, entry, back, before, own, after, entries_eq, rfl, start_eq, length_eq, before_le,
    lt_own, front_le, le_back⟩ := reads.exists_run inside
  have holds : map.entryAt? index = some entry := by
    rw [map.entryAt?_eq entries_eq (fun earlier mem => by have := front_le earlier mem; omega)
      (by omega) (fun later mem => by have := le_back later mem; omega),
      if_pos (by simp only [Entry.stop]; omega)]
  obtain ⟨count, rfl⟩ := Nat.exists_eq_add_of_le before_le
  have inside_own : count < own.length := by omega
  have mark_eq : (entry.marks own)[count]? = some mark := by
    rwa [List.append_assoc, List.getElem?_append_right (by omega), Nat.add_sub_cancel_left,
      List.getElem?_append_left (by simpa using inside_own)] at found
  have stream_split : map.stream = before.map Mark.char ++ own ++ after.map Mark.char := by
    simpa using stream_eq
  refine ⟨entry, holds, ?_⟩
  cases span_eq : entry.span with
  | none =>
      rw [map.resolve_of_sourceless holds span_eq]
      simp only [Entry.marks, span_eq, Mark.uniform, List.getElem?_map,
        List.getElem?_eq_getElem inside_own, Option.map_some, Option.some.injEq] at mark_eq
      simp [← mark_eq]
  | some span =>
      cases exact_eq : entry.exact with
      | false =>
          rw [map.resolve_of_coarse holds span_eq exact_eq]
          simp only [Entry.marks, span_eq, exact_eq, Bool.false_eq_true, if_false, Mark.uniform,
            List.getElem?_map, List.getElem?_eq_getElem inside_own, Option.map_some,
            Option.some.injEq] at mark_eq
          simp [← mark_eq]
      | true =>
          have stands : Slice.item? map.stream ((before.length + count : Nat) : Int) =
              some own[count] := by
            rw [Slice.item?_natCast, stream_split, List.append_assoc,
              List.getElem?_append_right (by simp), List.length_map, Nat.add_sub_cancel_left,
              List.getElem?_append_left inside_own, List.getElem?_eq_getElem inside_own]
          have size_eq := map.sizeBetween_eq stream_split (Nat.le_of_lt inside_own)
          rw [List.length_map] at size_eq
          rw [map.resolve_of_exact holds span_eq exact_eq stands, start_eq, size_eq]
          simp only [Entry.marks, span_eq, exact_eq, if_true, Mark.getElem?_verbatim,
            List.getElem?_eq_getElem inside_own, Option.map_some, Option.some.injEq] at mark_eq
          simp [← mark_eq]

/-- Every character of the stream with what its place resolves to. -/
def readings (map : PositionMap) : List (Char × Except LookupError (Option Origin)) :=
  map.stream.zipIdx.map fun (char, index) => (char, map.resolve index)

theorem readings_of_reads (map : PositionMap) {marks : List Mark} (reads : Reads map.entries marks)
    (stream_eq : map.stream = marks.map Mark.char) :
    map.readings = marks.map fun mark => (mark.char, .ok mark.origin) := by
  apply List.ext_getElem?
  intro index
  rw [readings, List.getElem?_map, List.getElem?_zipIdx, stream_eq, List.getElem?_map,
    List.getElem?_map]
  cases found : marks[index]? with
  | none => rfl
  | some mark =>
      obtain ⟨-, -, -, resolved⟩ := map.resolve_of_reads reads stream_eq found
      simp [resolved]

end PositionMap

namespace Piece

theorem reads_pushEntries {entries : List Entry} {marks : List Mark} (reads : Reads entries marks)
    (pieces : List Piece) :
    Reads (pushEntries marks.length entries pieces) (marks ++ pieces.flatMap Piece.marks) := by
  induction pieces generalizing entries marks with
  | nil => simpa [pushEntries] using reads
  | cons piece rest induction =>
      have pushed : Reads ((piece.entry marks.length).push entries) (marks ++ piece.marks) := by
        rw [← piece.marks_entry marks.length]
        refine reads.push ?_ (by simp) ?_
        · cases piece <;> rfl
        · cases piece <;> simp [entry, emitted]
      have rest_read := induction pushed
      simpa [pushEntries] using rest_read

/-- The entries of some pieces read as the marks of the pieces. -/
theorem reads_entries (pieces : List Piece) :
    Reads (entries pieces) (pieces.flatMap Piece.marks) := by
  simpa [entries] using reads_pushEntries .nil pieces

theorem stream_eq_map_marks (pieces : List Piece) :
    stream pieces = (pieces.flatMap Piece.marks).map Mark.char := by
  simp [stream, List.map_flatMap]

theorem readings_positionMap (pieces : List Piece) :
    (positionMap pieces).readings =
      (pieces.flatMap Piece.marks).map fun mark => (mark.char, .ok mark.origin) :=
  (positionMap pieces).readings_of_reads (reads_entries pieces) (stream_eq_map_marks pieces)

end Piece
end ProseCheck
