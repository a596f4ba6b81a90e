import Mathlib.Data.List.Induction
import ProseCheck.Diagnostic
import ProseCheck.Proofs.Location.Canonical
import ProseCheck.Proofs.Source.Renaming

/-!
# Locations in renamed files

Locations are joined by comparing names of files, and candidates are found through spans.  So a
suggestion on a renamed chunk of a renamed world has the renamed locations, and the findings are the
renamed findings.  Whatever the names are, all locations lie in files of the world.
-/

namespace ProseCheck

/-- The location when files have other names. -/
def Location.renamed (names : FileId → FileId) (location : Location) : Location :=
  ⟨names location.file, location.start, location.stop⟩

/-- The diagnostic when files have other names. -/
def Diagnostic.renamed (names : FileId → FileId) (diagnostic : Diagnostic) : Diagnostic :=
  { diagnostic with
    locations := diagnostic.locations.map (Location.renamed names)
    located := mt List.map_eq_nil_iff.1 diagnostic.located }

/-- The findings when files have other names. -/
def Findings.renamed (names : FileId → FileId) (findings : Findings) : Findings :=
  ⟨findings.diagnostics.map (Diagnostic.renamed names), findings.dropped⟩

/-- The scope when files have other names. -/
def Scope.renamed (names : Equiv.Perm FileId) (scope : Scope) : Scope :=
  ⟨scope.world.renamed names, scope.interest.map names, scope.ignored⟩

section

variable (names : Equiv.Perm FileId)

namespace Location

theorem within_renamed (inner outer : Location) :
    (inner.renamed names).within (outer.renamed names) = inner.within outer := by
  have same_file : (names outer.file == names inner.file) = (outer.file == inner.file) := by
    rw [Bool.eq_iff_iff, beq_iff_eq, beq_iff_eq, names.injective.eq_iff]
  rw [within, within, renamed, renamed, same_file]

theorem insert_renamed (locations : List Location) (candidate : Location) :
    insert (locations.map (renamed names)) (candidate.renamed names) =
      (insert locations candidate).map (renamed names) := by
  have same_any : (locations.map (renamed names)).any (candidate.renamed names).within =
      locations.any candidate.within := by
    rw [List.any_map]
    exact congrArg locations.any (funext fun outer => candidate.within_renamed names outer)
  rw [insert, insert, same_any, List.getLast?_map]
  split
  · rfl
  · cases locations.getLast? with
    | none => rfl
    | some last =>
        have same_file : (last.renamed names).file = (candidate.renamed names).file ↔
            last.file = candidate.file := names.injective.eq_iff
        have same_stop : (last.renamed names).stop = (candidate.renamed names).start ↔
            last.stop = candidate.start := Iff.rfl
        simp only [Option.map_some, same_file, same_stop]
        split
        · rw [List.map_append, List.map_dropLast]
          rfl
        · rw [List.map_append]
          rfl

theorem foldl_insert_renamed (locations candidates : List Location) :
    (candidates.map (renamed names)).foldl insert (locations.map (renamed names)) =
      (candidates.foldl insert locations).map (renamed names) := by
  induction candidates generalizing locations with
  | nil => rfl
  | cons candidate rest induction =>
      rw [List.map_cons, List.foldl_cons, List.foldl_cons, insert_renamed, induction]

end Location

namespace Placed

theorem isIgnored_renamed (placed : Placed) (ignored : List String) :
    (placed.renamed names).isIgnored ignored = placed.isIgnored ignored := by
  have ancestors_eq : (placed.renamed names).ancestors =
      placed.ancestors.map (Node.renamed names) := rfl
  rw [isIgnored, isIgnored, ancestors_eq, List.any_map]
  refine congrArg placed.ancestors.any (funext fun node => ?_)
  rw [Function.comp_apply, Node.callee?_renamed]

theorem locate_renamed (placed : Placed) (file : FileId) (origin : Origin) :
    (placed.renamed names).locate (names file) (origin.renamed names) =
      (placed.locate file origin).renamed names := by
  have same_kind : (placed.renamed names).node.kind = placed.node.kind :=
    placed.node.kind_renamed names
  rw [locate, locate, same_kind]
  split <;> rfl

end Placed

namespace PositionMap

theorem candidate?_renamed (map : PositionMap) (world : World) (interest : Option FileId)
    (ignored : List String) (index : Nat) :
    (map.renamed names).candidate? (world.renamed names) (interest.map names) ignored index =
      (map.candidate? world interest ignored index).map (Location.renamed names) := by
  rw [candidate?, candidate?, origin?_renamed]
  cases map.origin? index with
  | none => rfl
  | some origin =>
      have found := world.find?_renamed names origin.span
      obtain ⟨⟨file, number⟩, start, stop⟩ := origin
      cases file with
      | none => rfl
      | some file =>
          have same_interest : (interest.map names).any (· ≠ names file) =
              interest.any (· ≠ file) := by
            cases interest <;> simp
          simp only [Span.renamed, Option.map_some] at found
          simp only [Origin.renamed, Span.renamed, Option.map_some, same_interest, found]
          split
          · rfl
          · cases world.find? ⟨some file, number⟩ with
            | none => rfl
            | some placed =>
                have located := placed.locate_renamed names file ⟨⟨some file, number⟩, start, stop⟩
                simp only [Option.map_some, Placed.isIgnored_renamed]
                split
                · rfl
                · exact congrArg some located

theorem locations_renamed (map : PositionMap) (world : World) (interest : Option FileId)
    (ignored : List String) (suggestion : Suggestion) :
    (map.renamed names).locations (world.renamed names) (interest.map names) ignored suggestion =
      (map.locations world interest ignored suggestion).map (Location.renamed names) := by
  have same_covered : (map.renamed names).covered suggestion = map.covered suggestion := rfl
  have candidates_eq : (map.renamed names).candidate? (world.renamed names) (interest.map names)
      ignored =
        fun index => (map.candidate? world interest ignored index).map (Location.renamed names) :=
    funext (map.candidate?_renamed names world interest ignored)
  rw [locations, locations, same_covered, candidates_eq, ← List.map_filterMap,
    ← Location.foldl_insert_renamed, List.map_nil]

end PositionMap

theorem Diagnostic.ofSuggestion?_renamed (suggestion : Suggestion) (locations : List Location) :
    ofSuggestion? suggestion (locations.map (Location.renamed names)) =
      (ofSuggestion? suggestion locations).map (renamed names) := by
  cases locations <;> rfl

namespace Findings

theorem addOne_renamed (scope : Scope) (map : PositionMap) (findings : Findings)
    (suggestion : Suggestion) :
    addOne (scope.renamed names) (map.renamed names) (findings.renamed names) suggestion =
      (addOne scope map findings suggestion).renamed names := by
  rw [addOne, addOne, Scope.renamed, PositionMap.locations_renamed,
    Diagnostic.ofSuggestion?_renamed]
  cases Diagnostic.ofSuggestion? suggestion
      (map.locations scope.world scope.interest scope.ignored suggestion) with
  | none => rfl
  | some diagnostic => simp [renamed]

/-- What is found on a renamed chunk is what is found on the chunk, renamed. -/
theorem add_renamed (scope : Scope) (map : PositionMap) (findings : Findings)
    (suggestions : List Suggestion) :
    (findings.renamed names).add (scope.renamed names) (map.renamed names) suggestions =
      (findings.add scope map suggestions).renamed names := by
  unfold add
  induction suggestions generalizing findings with
  | nil => rfl
  | cons suggestion rest induction =>
      rw [List.foldl_cons, List.foldl_cons, addOne_renamed, induction]

end Findings

end

/-! ## Files of locations -/

theorem World.file_mem_of_find? {world : World} {span : Span} {file : FileId} {placed : Placed}
    (file_eq : span.file = some file) (found : world.find? span = some placed) :
    file ∈ world.files := by
  simp only [find?, file_eq] at found
  obtain ⟨source, source_eq, -⟩ := Option.bind_eq_some_iff.1 found
  have id_eq : source.id = file := by simpa using List.find?_some source_eq
  rw [← id_eq]
  exact List.mem_map_of_mem (List.mem_of_find?_eq_some source_eq)

theorem Location.file_of_mem_insert {files : List FileId} {locations : List Location}
    {candidate : Location} (all_mem : ∀ location ∈ locations, location.file ∈ files)
    (candidate_mem : candidate.file ∈ files) :
    ∀ location ∈ insert locations candidate, location.file ∈ files := by
  have inserts := inserts locations candidate
  generalize insert locations candidate = result at inserts ⊢
  cases inserts with
  | absorbed mem inside => exact all_mem
  | @extended front last outside same_file touches =>
      obtain ⟨front_mem, last_mem⟩ := List.forall_mem_append.1 all_mem
      exact List.forall_mem_append.2 ⟨front_mem, by simpa using last_mem⟩
  | appended outside untouched =>
      exact List.forall_mem_append.2 ⟨all_mem, by simpa using candidate_mem⟩

namespace PositionMap

variable {map : PositionMap} {world : World} {interest : Option FileId} {ignored : List String}

theorem file_of_candidate? {index : Nat} {location : Location}
    (found : map.candidate? world interest ignored index = some location) :
    location.file ∈ world.files := by
  obtain ⟨origin, file, placed, -, file_eq, -, placed_eq, -, rfl⟩ :=
    (candidate?_eq_some_iff map world interest ignored index location).1 found
  rw [Placed.file_locate]
  exact World.file_mem_of_find? file_eq placed_eq

/-- The locations of a suggestion lie in files of the world. -/
theorem file_of_mem_locations {suggestion : Suggestion} :
    ∀ location ∈ map.locations world interest ignored suggestion,
      location.file ∈ world.files := by
  have candidates_mem : ∀ candidate ∈
      (map.covered suggestion).filterMap (map.candidate? world interest ignored),
        candidate.file ∈ world.files := by
    intro candidate mem
    obtain ⟨index, -, found⟩ := List.mem_filterMap.1 mem
    exact file_of_candidate? found
  rw [locations]
  generalize (map.covered suggestion).filterMap _ = candidates at candidates_mem
  induction candidates using List.reverseRecOn with
  | nil => simp
  | append_singleton candidates candidate induction =>
      rw [List.forall_mem_append] at candidates_mem
      obtain ⟨earlier_mem, last_mem⟩ := candidates_mem
      rw [List.foldl_append]
      exact Location.file_of_mem_insert (induction earlier_mem)
        (last_mem candidate (List.mem_singleton_self candidate))

end PositionMap
end ProseCheck
