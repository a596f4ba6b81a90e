import ProseCheck.Check.Chunks
import ProseCheck.Proofs.Source.Renaming

/-!
# Conversion of renamed files

The conversion of markup carries spans along and looks at nothing in them, so a renamed tree is
converted to the renamed events and chunks.  Which files of a world are converted is decided by
their names alone, and there one name is special: a main file with the empty name counts as none.
-/

namespace ProseCheck

variable (names : Equiv.Perm FileId)

/-- The event when files have other names. -/
abbrev Event.renamed : Event → Event := .changed (.renamed names)

namespace Markup

theorem placeholderEvents_renamed (position : Position) (placeholder : Text) (node : Node) :
    placeholderEvents position placeholder (node.renamed names) =
      (placeholderEvents position placeholder node).map (Event.renamed names) := by
  have same_text := node.fullText_renamed names
  obtain ⟨kind, text, children, span⟩ := node
  cases position with
  | prose => simp only [placeholderEvents, same_text]; rfl
  | hidden => simp only [placeholderEvents, same_text]; rfl

theorem separateBy_renamed (separator : Text) :
    (separateBy separator).map (Event.renamed names) = separateBy separator := by
  unfold separateBy
  split <;> rfl

theorem leafEvents_renamed (kind : Kind) (text : Text) (span : Span) :
    leafEvents kind text (span.renamed names) =
      (leafEvents kind text span).map (Event.renamed names) := by
  unfold leafEvents
  split <;> try rfl
  unfold spaceEvent
  split <;> rfl

section

variable (rules : Rules)

mutual

/-- A renamed tree is converted to the renamed events. -/
theorem events_renamed (position : Position) :
    ∀ node : Node, events rules position (node.renamed names) =
      (events rules position node).map (Event.renamed names)
  | ⟨kind, text, children, span⟩ => by
    have same_isEmpty := Node.isEmpty_renamedAll names children
    have same_callee := Node.callee?_renamed names ⟨kind, text, children, span⟩
    have placeholder (text' : Text) :=
      placeholderEvents_renamed names position text' ⟨kind, text, children, span⟩
    have below (position : Position) := eventsOfAll_renamed position children
    rw [Node.renamed] at same_callee placeholder ⊢
    cases kind
    case markup => exact below .prose
    case text | smartQuote | space | parbreak | linebreak | shorthand | escape =>
      cases position with
      | prose =>
          rw [events, events]
          exact leafEvents_renamed names _ text span
      | hidden => rfl
    case strong | emph =>
      simp only [events, same_isEmpty, below]
      split <;> rfl
    case heading | listItem | enumItem | termItem =>
      simp only [events, itemEvents_renamed _ false children, List.map_cons, List.map_append]
      rfl
    case equation | ref => exact placeholder _
    case funcCall =>
      simp only [events, same_callee]
      split
      · simp only [callEvents_renamed _ children, List.map_append, separateBy_renamed]
      · exact callEvents_renamed [] children
    case contentBlock => exact contentEvents_renamed children
    all_goals
      simp only [events, same_isEmpty, below]
      split <;> rfl

theorem eventsOfAll_renamed (position : Position) :
    ∀ nodes : List Node, eventsOfAll rules position (Node.renamedAll names nodes) =
      (eventsOfAll rules position nodes).map (Event.renamed names)
  | [] => rfl
  | node :: rest => by
    rw [Node.renamedAll, eventsOfAll, eventsOfAll, List.map_append, events_renamed position node,
      eventsOfAll_renamed position rest]

theorem itemEvents_renamed (item : Kind) (afterMarker : Bool) :
    ∀ nodes : List Node, itemEvents rules item afterMarker (Node.renamedAll names nodes) =
      (itemEvents rules item afterMarker nodes).map (Event.renamed names)
  | [] => rfl
  | ⟨kind, text, children, span⟩ :: rest => by
    have same_text := Node.fullText_renamed names ⟨kind, text, children, span⟩
    have same_events := events_renamed .prose ⟨kind, text, children, span⟩
    have later (afterMarker : Bool) := itemEvents_renamed item afterMarker rest
    rw [Node.renamed] at same_text same_events
    rw [Node.renamedAll, Node.renamed, itemEvents, itemEvents, same_text, same_events, later, later]
    split
    · rfl
    · split
      · rfl
      · split
        · rfl
        · rw [List.map_append]

theorem callEvents_renamed (afterArgument : Text) :
    ∀ nodes : List Node, callEvents rules afterArgument (Node.renamedAll names nodes) =
      (callEvents rules afterArgument nodes).map (Event.renamed names)
  | [] => rfl
  | ⟨kind, text, children, span⟩ :: rest => by
    have same_events := events_renamed .hidden ⟨kind, text, children, span⟩
    rw [Node.renamed] at same_events
    rw [Node.renamedAll, Node.renamed, callEvents, callEvents, List.map_append,
      callEvents_renamed afterArgument rest, same_events,
      argumentEvents_renamed afterArgument children]
    split <;> rfl

theorem argumentEvents_renamed (afterArgument : Text) :
    ∀ nodes : List Node, argumentEvents rules afterArgument (Node.renamedAll names nodes) =
      (argumentEvents rules afterArgument nodes).map (Event.renamed names)
  | [] => rfl
  | argument :: rest => by
    rw [Node.renamedAll, argumentEvents, argumentEvents, List.map_append,
      argumentEvents_renamed afterArgument rest, Node.kind_renamed, Node.argumentName_renamed,
      events_renamed .hidden argument]
    congr 1
    split
    · split
      · simp only [List.map_append, separateBy_renamed]
      · rfl
    · rw [List.map_append, separateBy_renamed]
    · rfl

theorem contentEvents_renamed :
    ∀ nodes : List Node, contentEvents rules (Node.renamedAll names nodes) =
      (contentEvents rules nodes).map (Event.renamed names)
  | [] => rfl
  | ⟨kind, text, children, span⟩ :: rest => by
    have same_events (position : Position) := events_renamed position ⟨kind, text, children, span⟩
    simp only [Node.renamed] at same_events
    rw [Node.renamedAll, Node.renamed, contentEvents, contentEvents, List.map_append, same_events,
      contentEvents_renamed rest]

end

/-- A renamed tree is converted to the renamed chunks. -/
theorem convert_renamed (limit : Int) (interest : Option FileId) (language : String)
    (tree : Node) :
    convert rules limit (interest.map names) language (tree.renamed names) =
      (convert rules limit interest language tree).map (Chunk.renamed names) := by
  rw [convert, convert, events_renamed, Collector.collect_renamed]

end

end Markup

namespace World

theorem fileChunks_renamed (world : World) (options : Options) (file : FileId) :
    (world.renamed names).fileChunks options (names file) =
      (world.fileChunks options file).map (Chunk.renamed names) := by
  rw [fileChunks, fileChunks, source?_renamed]
  cases world.source? file with
  | none => rfl
  | some source =>
      have converted := Markup.convert_renamed names options.rules options.chunkSize (some file)
        options.language source.root
      rw [← Source.root_renamed] at converted
      exact converted

/-- The same files are converted, unless a main file gets or loses the empty name. -/
theorem targets_renamed {world : World} {allFiles : Bool}
    (same_blank : allFiles = true ∨
      ∀ file, world.main = some file → (names file = "" ↔ file = "")) :
    (world.renamed names).targets allFiles = (world.targets allFiles).map names := by
  cases allFiles with
  | true => exact world.files_renamed names
  | false =>
      have same_main := same_blank.resolve_left Bool.false_ne_true
      rw [targets, targets, if_neg Bool.false_ne_true, if_neg Bool.false_ne_true, main_renamed]
      cases main_eq : world.main with
      | none => rfl
      | some file =>
          have same_name := same_main file main_eq
          rw [Option.map_some, Option.filter_some, Option.filter_some]
          by_cases blank : file = ""
          · simp [blank, blank ▸ same_name.2 blank]
          · simp [blank, mt same_name.1 blank]

/-- The chunks of renamed files are the renamed chunks, unless a main file gets or loses the empty
name. -/
theorem chunks_renamed {world : World} (no_pages : world.pages = none) (options : Options)
    {allFiles : Bool}
    (same_blank : allFiles = true ∨
      ∀ file, world.main = some file → (names file = "" ↔ file = "")) :
    (world.renamed names).chunks options allFiles =
      (world.chunks options allFiles).map (Chunk.renamed names) := by
  simp only [chunks, no_pages, pages_renamed, targets_renamed names same_blank]
  rw [List.flatMap_map, List.map_flatMap]
  exact List.flatMap_congr fun file _ => world.fileChunks_renamed names options file

end World
end ProseCheck
