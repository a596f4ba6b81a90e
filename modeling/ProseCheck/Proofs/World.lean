import ProseCheck.Check.Chunks
import ProseCheck.Proofs.Source.Numbering

/-!
# Nodes and chunks of a world

The names of the sources of a world are distinct, so each source is found by its name and each node
by its span.  Without pages, the chunks of a world are those of its files.
-/

namespace ProseCheck
namespace World

/-- The world of one source. -/
def ofSource (source : Source) : World where
  sources := [source]
  main := some source.id
  pages := none
  distinct := by simp
  main_mem := by simp

/-- A source of a world is the one of its name. -/
theorem source?_of_mem {world : World} {source : Source} (mem : source ∈ world.sources) :
    world.source? source.id = some source := by
  unfold source?
  cases found : world.sources.find? fun other => other.id == source.id with
  | none => simpa using List.find?_eq_none.1 found source mem
  | some other =>
      have same_id : other.id = source.id := by simpa using List.find?_some found
      have other_mem := List.mem_of_find?_eq_some found
      rw [List.inj_on_of_nodup_map world.distinct other_mem mem same_id]

/-- A file of a world has a source. -/
theorem exists_source_of_mem_files {world : World} {file : FileId} (mem : file ∈ world.files) :
    ∃ source, world.source file = .ok source := by
  obtain ⟨source, source_mem, rfl⟩ := List.mem_map.1 mem
  exact ⟨source, by rw [World.source, source?_of_mem source_mem]⟩

/-- A world finds the nodes of its sources. -/
theorem find?_of_mem_places {world : World} {id : FileId} {tree : Node}
    (mem : Source.ofTree id tree ∈ world.sources) {placed : Placed}
    (placed_mem : placed ∈ (Source.ofTree id tree).places) :
    world.find? placed.node.span = some placed := by
  have file_eq : placed.node.span.file = some id :=
    Node.span_of_mem_preorder_numbered id (Source.node_mem_of_mem_places placed_mem)
  have source_eq : world.source? id = some (Source.ofTree id tree) := source?_of_mem mem
  rw [find?]
  simp only [file_eq, source_eq, Option.bind_some]
  exact Source.find?_of_mem_places placed_mem

variable {world : World}

/-- The chunks of a world without pages are those of its files, one after the other. -/
theorem chunks_allFiles (no_pages : world.pages = none) (options : Options) :
    world.chunks options true = world.files.flatMap (world.fileChunks options) := by
  rw [chunks, no_pages]
  rfl

/-- Without the others they are those of the main file, if it has a name. -/
theorem chunks_main (no_pages : world.pages = none) (options : Options) {file : FileId}
    (main_eq : world.main = some file) (named : file ≠ "") :
    world.chunks options false = world.fileChunks options file := by
  have kept : (some file).filter (· ≠ "") = some file := by simp [named]
  rw [chunks, no_pages]
  simp only [targets, main_eq, kept, Option.toList_some]
  exact List.flatMap_singleton _ _

/-- A main file with the empty name is not converted. -/
theorem chunks_nameless (no_pages : world.pages = none) (options : Options)
    (nameless : world.main = some "") : world.chunks options false = [] := by
  rw [chunks, no_pages]
  simp [targets, nameless]

end World
end ProseCheck
