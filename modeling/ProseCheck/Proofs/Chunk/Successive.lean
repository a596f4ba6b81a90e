import ProseCheck.Proofs.Chunk.Agreement

/-!
# Successive pieces

Pieces that show the text of one node as it goes on make one segment and one run of characters,
into however many pieces the text was cut.  Unless another event than a paragraph break comes
between them, they also stay in one chunk, up to its limit.
-/

namespace ProseCheck
namespace Piece

/-- Pieces that show texts as they follow each other from an octet of a node on. -/
def successive (span : Span) : Nat → List Text → List Piece
  | _, [] => []
  | offset, text :: rest =>
    .plain text (some span) offset :: successive span (offset + Utf8.size text) rest

theorem successive_append (span : Span) (offset : Nat) (front back : List Text) :
    successive span offset (front ++ back) =
      successive span offset front ++
        successive span (offset + Utf8.size front.flatten) back := by
  induction front generalizing offset with
  | nil => simp [successive]
  | cons text rest induction => simp [successive, induction, Nat.add_assoc]

@[simp]
theorem stream_successive (span : Span) (offset : Nat) (texts : List Text) :
    stream (successive span offset texts) = texts.flatten := by
  induction texts generalizing offset with
  | nil => rfl
  | cons text rest induction => simpa [successive, stream, emitted] using induction _

/-- Successive pieces are one segment. -/
theorem segments_successive (span : Span) (offset : Nat) {texts : List Text}
    (some_text : texts ≠ []) :
    segments (successive span offset texts) = [⟨.text, texts.flatten, []⟩] := by
  induction texts generalizing offset with
  | nil => contradiction
  | cons text rest induction =>
      rw [segments, successive, List.map_cons, Segment.merge, List.foldr_cons, ← Segment.merge]
      by_cases last : rest = []
      · simp [last, successive, Segment.merge, Segment.place, segment]
      · rw [← segments, induction _ last]
        simp [Segment.place, segment, Segment.join]

/-- A piece that goes on behind an entry lengthens it. -/
theorem push_successor (span : Span) (start offset : Nat) (text : Text) {next : Text}
    (nonempty : next ≠ []) :
    ((plain next (some span) ↑(offset + Utf8.size text)).entry (start + text.length)).push
        [(plain text (some span) offset).entry start] =
      [(plain (text ++ next) (some span) offset).entry start] := by
  simp [entry, Entry.push, Entry.continues, Entry.stop, Entry.join, nonempty]

theorem pushEntries_successive (span : Span) (start offset : Nat) (text : Text)
    {texts : List Text} (nonempty : ∀ text ∈ texts, text ≠ []) :
    pushEntries (start + text.length) [(plain text (some span) offset).entry start]
        (successive span (offset + Utf8.size text) texts) =
      [(plain (text ++ texts.flatten) (some span) offset).entry start] := by
  induction texts generalizing text with
  | nil => simp [successive, pushEntries]
  | cons next rest induction =>
      obtain ⟨next_ne, rest_ne⟩ := List.forall_mem_cons.1 nonempty
      have stop_eq : start + text.length + next.length = start + (text ++ next).length := by
        rw [List.length_append, Nat.add_assoc]
      have offset_eq : offset + Utf8.size text + Utf8.size next =
          offset + Utf8.size (text ++ next) := by
        rw [Utf8.size_append, Nat.add_assoc]
      rw [successive, pushEntries, push_successor span start offset text next_ne, emitted, stop_eq,
        offset_eq, induction (text ++ next) rest_ne, List.flatten_cons, List.append_assoc]

/-- Successive pieces are one run of characters. -/
theorem entries_successive (span : Span) (offset : Nat) {texts : List Text}
    (nonempty : ∀ text ∈ texts, text ≠ []) (some_text : texts ≠ []) :
    entries (successive span offset texts) =
      [(plain texts.flatten (some span) offset).entry 0] := by
  obtain ⟨text, rest, rfl⟩ := List.exists_cons_of_ne_nil some_text
  obtain ⟨text_ne, rest_ne⟩ := List.forall_mem_cons.1 nonempty
  have first : ((plain text (some span) offset).entry 0).push [] =
      [(plain text (some span) offset).entry 0] := by
    simp [entry, Entry.push, text_ne]
  rw [entries, successive, pushEntries, first, emitted,
    pushEntries_successive span 0 offset text rest_ne, List.flatten_cons]

end Piece

/-- The chunk of a whole node: one segment of its text, and one exact run of characters, which
starts at the first octet of the node. -/
def Chunk.whole (language : String) (span : Span) (text : Text) : Chunk :=
  ⟨[⟨.text, text, []⟩], ⟨text, [⟨0, text.length, some span, 0, true, Utf8.size text⟩]⟩, language⟩

/-- Successive pieces that begin a node are finished as a chunk of one text. -/
theorem Draft.chunk_successive (language : String) (span : Span) {texts : List Text}
    (nonempty : ∀ text ∈ texts, text ≠ []) (some_text : texts ≠ []) :
    (Draft.mk language [] (Piece.successive span 0 texts)).chunk =
      .whole language span texts.flatten := by
  have entries_eq := Piece.entries_successive span 0 nonempty some_text
  have segments_eq := Piece.segments_successive span 0 some_text
  simp [chunk, pieces, Piece.positionMap, entries_eq, segments_eq, Piece.entry, Chunk.whole]

/-- A draft is kept if its one run of characters comes from a node of interest. -/
theorem Collector.keeps_of_entries {draft : Draft} {entry : Entry} {span : Span}
    {interest : Option FileId} (entries_eq : draft.chunk.map.entries = [entry])
    (span_eq : entry.span = some span) (of_interest : ∀ file ∈ interest, span.file = some file) :
    keeps interest draft = true := by
  cases interest with
  | none => exact (Draft.hasContent_iff draft).2 ⟨entry, by simp [entries_eq], span, span_eq⟩
  | some file =>
      have file_mem : file ∈ draft.files :=
        (Draft.mem_files_iff draft file).2
          ⟨entry, by simp [entries_eq], span, span_eq, of_interest file rfl⟩
      simpa [keeps] using file_mem

/-- A draft that nothing was added to is not kept. -/
theorem Collector.keeps_of_no_pieces (interest : Option FileId) (language : String) :
    keeps interest ⟨language, [], []⟩ = false := by
  cases interest <;> rfl

/-- Whether an event goes on in a chunk that has not reached its limit. -/
def Event.goesOn : Event → Bool
  | .piece _ | .paragraphBreak => true
  | .language _ | .cut => false

/-- Events that stay within the limit and ask for no other chunk make one stretch. -/
theorem Collector.stretchesFrom_of_goesOn {limit : Int} {language : String}
    {taken events : List Event} (go_on : ∀ event ∈ events, event.goesOn = true)
    (fits : (Event.size (taken ++ events) : Int) ≤ limit) :
    stretchesFrom limit language taken events = [⟨language, taken ++ events, none⟩] := by
  induction events generalizing taken with
  | nil => simp [stretchesFrom]
  | cons event rest induction =>
      obtain ⟨goes_on, rest_go_on⟩ := List.forall_mem_cons.1 go_on
      have joins : successor? limit ⟨language, [], Event.pieces taken⟩ event = none := by
        cases event with
        | piece piece => rfl
        | paragraphBreak =>
            have size_eq : (Draft.mk language [] (Event.pieces taken)).size = Event.size taken :=
              rfl
            rw [Event.size_append] at fits
            rw [successor?, size_eq, if_neg (by omega)]
        | language next => contradiction
        | cut => contradiction
      rw [stretchesFrom_of_joins joins, induction rest_go_on (by simpa using fits)]
      simp

end ProseCheck
