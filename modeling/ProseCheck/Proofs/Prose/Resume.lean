import ProseCheck.Proofs.Prose.Conversion

/-!
# Resuming after a cut

Where a text ends with a blank line and its last chunk exceeds the limit, that chunk ends whatever
follows, and what follows is converted as if it stood alone.  So an edit before such a place leaves
the chunks behind it as they were, but for the places of their characters, and what was kept for
them is found again.
-/

namespace ProseCheck

/-- The chunk without the origins of its characters: all that a request and a key depend on. -/
def Chunk.unplaced (chunk : Chunk) : Chunk := { chunk with map := ⟨chunk.stream, []⟩ }

namespace Prose

/-- Whether a text ends with a blank line behind a chunk that exceeds the limit. -/
structure EndsWithCut (options : Options) (file : FileId) (text : Text) : Prop where
  blankLine : ∃ before gap, text = before ++ gap ∧ Text.isBlankText gap = true ∧
    2 ≤ gap.count '\n'
  exceeds : ∃ last ∈ (chunks options file text).getLast?, options.chunkSize < last.stream.length

/-- The chunk of a portion without the origins of its characters. -/
def unplacedOf (language : String) (portion : List Text) : Chunk :=
  ⟨Segment.merge (portion.map fun run => (piece .detached run).segment),
    ⟨portion.flatMap normalRun, []⟩, language⟩

theorem unplaced_chunkOf (file : FileId) (language : String) (portion : List (Text × Nat)) :
    (chunkOf file language portion).unplaced = unplacedOf language (portion.map Prod.fst) := by
  have segments_eq : (portion.map (pieceAt file)).map Piece.segment =
      (portion.map Prod.fst).map fun run => (piece .detached run).segment := by
    rw [List.map_map, List.map_map]
    exact List.map_congr_left fun run _ => segment_piece _ run.1 .detached
  rw [Chunk.unplaced, stream_chunkOf, segments_chunkOf, unplacedOf, ← segments_eq]
  rfl

section

variable {options : Options} {file : FileId} {left right : Text}

/-- The last run of a text that ends with a cut is a paragraph break. -/
theorem EndsWithCut.exists_parbreak (cut : EndsWithCut options file left) :
    ∃ earlier last, runs left = earlier ++ [last] ∧ kindOf last = .parbreak := by
  obtain ⟨before, gap, rfl, blank, several⟩ := cut.blankLine
  have nonempty : gap ≠ [] := by
    rintro rfl
    simp at several
  obtain ⟨earlier, more, more_blank, runs_eq⟩ := runs_append_blanks before nonempty blank
  have both_blank : Text.isBlankText (more ++ gap) = true := by
    rw [Text.isBlankText, List.all_append, Bool.and_eq_true]
    exact ⟨more_blank, blank⟩
  have feeds : 2 ≤ (more ++ gap).count '\n' := by
    rw [List.count_append]
    omega
  exact ⟨earlier, more ++ gap, runs_eq, kindOf_of_blankLine both_blank feeds⟩

/-- The last character of a text that ends with a cut is blank. -/
theorem EndsWithCut.isBlank_last (cut : EndsWithCut options file left) :
    ∀ last ∈ left.getLast?, Text.isBlank last = true := by
  obtain ⟨before, gap, rfl, blank, several⟩ := cut.blankLine
  intro last last_eq
  have nonempty : gap ≠ [] := by
    rintro rfl
    simp at several
  rw [List.getLast?_append_of_ne_nil _ nonempty] at last_eq
  exact List.all_eq_true.1 blank last (List.mem_of_mem_getLast? last_eq)

variable (named : file ≠ "")
include named

/-- But for the origins, the chunks of plain prose are those of its runs cut into portions. -/
theorem map_unplaced_chunks (text : Text) :
    (chunks options file text).map Chunk.unplaced =
      (portionsFrom (isFull options.chunkSize) [] (runs text)).map
        (unplacedOf options.language) := by
  rw [chunks_eq_map_portions options named, ← map_fst_portions, List.map_map, List.map_map]
  exact List.map_congr_left fun portion _ => unplaced_chunkOf file options.language portion

/-- The last portion of a text that ends with a cut is full. -/
theorem EndsWithCut.isFull_last (cut : EndsWithCut options file left) :
    ∀ last ∈ (portionsFrom (isFull options.chunkSize) [] (runs left)).getLast?,
      isFull options.chunkSize last = true := by
  intro last last_eq
  obtain ⟨front, portions_eq⟩ := List.getLast?_eq_some_iff.1 last_eq
  obtain ⟨start, run, rfl⟩ : ∃ start run, last = start ++ [run] :=
    (List.eq_nil_or_concat' last).resolve_left
      (ne_nil_of_mem_portionsFrom _ (List.mem_of_mem_getLast? last_eq))
  -- The last run of the last portion is the last one of the text.
  have breaks : kindOf run = .parbreak := by
    obtain ⟨earlier, parbreak, runs_eq, breaks⟩ := cut.exists_parbreak
    have flat := flatten_portionsFrom (isFull options.chunkSize) [] (runs left)
    rw [portions_eq, runs_eq, List.flatten_append, List.flatten_singleton, List.nil_append,
      ← List.append_assoc] at flat
    obtain rfl : run = parbreak := by simpa using (List.append_inj' flat rfl).2
    exact breaks
  -- Its stream is that of the last chunk.
  have exceeds : options.chunkSize < ((start ++ [run]).flatMap normalRun).length := by
    obtain ⟨chunk, chunk_eq, exceeds⟩ := cut.exceeds
    have streams := congrArg List.getLast? (map_stream_chunks options named left)
    rw [List.getLast?_map, List.getLast?_map, Option.mem_def.1 chunk_eq,
      Option.mem_def.1 last_eq] at streams
    rwa [← Option.some.inj streams]
  exact isFull_iff.2 ⟨breaks, exceeds⟩

variable (cut : EndsWithCut options file left)
  (word : ∃ char rest, right = char :: rest ∧ Text.isBlank char = false)
include cut word

/-- Behind a cut, a text that begins with a word is converted as if it stood alone. -/
theorem map_unplaced_append :
    (chunks options file (left ++ right)).map Chunk.unplaced =
      (chunks options file left ++ chunks options file right).map Chunk.unplaced := by
  have apart : runs (left ++ right) = runs left ++ runs right := by
    obtain ⟨char, rest, rfl, not_blank⟩ := word
    refine runs_append fun last last_eq next next_eq => ?_
    obtain rfl : char = next := by simpa using next_eq
    rw [not_blank, cut.isBlank_last last last_eq]
    decide
  rw [List.map_append, map_unplaced_chunks named, map_unplaced_chunks named,
    map_unplaced_chunks named, apart, portionsFrom_append _ _ (by simp) (cut.isFull_last named),
    List.map_append]

/-- The chunks behind a cut are those of what follows it. -/
theorem map_unplaced_drop :
    ((chunks options file (left ++ right)).drop (chunks options file left).length).map
        Chunk.unplaced =
      (chunks options file right).map Chunk.unplaced := by
  rw [List.map_drop, map_unplaced_append named cut word, List.map_append]
  exact List.drop_left' (List.length_map _)

/-- Chunks resume after a cut: but for the origins of their characters, the chunks of a text are
those of the part up to the cut and then those of the rest.  So their streams are, and the texts
that they stand for, and texts that differ only before a cut have the same chunks behind it. -/
theorem chunks_resume_after_cut :
    (chunks options file (left ++ right)).map Chunk.unplaced =
        (chunks options file left ++ chunks options file right).map Chunk.unplaced ∧
      (chunks options file (left ++ right)).map Chunk.stream =
        (chunks options file left ++ chunks options file right).map Chunk.stream ∧
      (chunks options file (left ++ right)).map Chunk.written =
        (chunks options file left ++ chunks options file right).map Chunk.written ∧
      ∀ other, EndsWithCut options file other →
        ((chunks options file (other ++ right)).drop (chunks options file other).length).map
            Chunk.unplaced =
          ((chunks options file (left ++ right)).drop (chunks options file left).length).map
            Chunk.unplaced := by
  have resumes := map_unplaced_append named cut word
  refine ⟨resumes, ?_, ?_, fun other other_cut => ?_⟩
  · have streams := congrArg (List.map Chunk.stream) resumes
    rw [List.map_map, List.map_map] at streams
    exact streams
  · have texts := congrArg (List.map Chunk.written) resumes
    rw [List.map_map, List.map_map] at texts
    exact texts
  · rw [map_unplaced_drop named other_cut word, map_unplaced_drop named cut word]

end

/-- A first paragraph that is long enough to be cut off. -/
theorem chunks_resume_after_cut_twoParagraphs :
    ("main.txt" : FileId) ≠ "" ∧ EndsWithCut shortChunks "main.txt" "ab\n\n".toList ∧
      (∃ char rest, "c".toList = char :: rest ∧ Text.isBlank char = false) ∧
      (chunks shortChunks "main.txt" "ab\n\nc".toList).map Chunk.stream =
        (chunks shortChunks "main.txt" "ab\n\n".toList ++
          chunks shortChunks "main.txt" "c".toList).map Chunk.stream := by
  have named : ("main.txt" : FileId) ≠ "" := by decide
  have word : ∃ char rest, "c".toList = char :: rest ∧ Text.isBlank char = false :=
    ⟨'c', [], by decide, by decide⟩
  have cut : EndsWithCut shortChunks "main.txt" "ab\n\n".toList := by
    refine ⟨⟨"ab".toList, "\n\n".toList, by decide, by decide, by decide⟩, ?_⟩
    have last_stream : ((chunks shortChunks "main.txt" "ab\n\n".toList).map Chunk.stream).getLast? =
        some "ab\n\n".toList := by
      rw [map_stream_chunks shortChunks named]
      decide
    rw [List.getLast?_map, Option.map_eq_some_iff] at last_stream
    obtain ⟨last, last_eq, stream_eq⟩ := last_stream
    exact ⟨last, last_eq, by rw [stream_eq]; decide⟩
  exact ⟨named, cut, word, (chunks_resume_after_cut named cut word).2.1⟩

end Prose
end ProseCheck
