import ProseCheck.Layout.Conversion
import ProseCheck.Markup.Conversion
import ProseCheck.Options.Basic
import ProseCheck.World

/-!
# Chunks of a world

The pages of a world are converted where they are known, and else its sources: the main one, or
all of them in order.
-/

namespace ProseCheck
namespace World

/-- Files that are converted: all of them, or the main one; an empty name counts as none. -/
def targets (world : World) (allFiles : Bool) : List FileId :=
  if allFiles then world.files else (world.main.filter (· ≠ "")).toList

/-- Chunks of one file. -/
def fileChunks (world : World) (options : Options) (file : FileId) : List Chunk :=
  match world.source? file with
  | some source =>
    Markup.convert options.rules options.chunkSize (some file) options.language source.root
  | none => []

/-- Chunks of a world. -/
def chunks (world : World) (options : Options) (allFiles : Bool) : List Chunk :=
  match world.pages with
  | some pages =>
    Layout.convert ⟨options.lineSpacing, options.languages⟩ options.chunkSize
      (if allFiles then none else world.main) pages
  | none => (world.targets allFiles).flatMap (world.fileChunks options)

end World
end ProseCheck
