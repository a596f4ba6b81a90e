import ProseCheck.Chunk.PositionMap
import ProseCheck.Suggestion
import ProseCheck.World

/-!
# Locations

A suggestion about a stretch of a stream is located in the document: the characters of the
stretch give candidate ranges, and ranges that touch or lie within another are joined.
-/

namespace ProseCheck

/-- A range of octets of a file. -/
structure Location where
  /-- The file. -/
  file : FileId
  /-- First octet. -/
  start : Int
  /-- Octet after the last. -/
  stop : Int
deriving DecidableEq, Repr

namespace Location

/-- Reads a location. -/
def read : Json → Validated Location :=
  Validated.record fun members =>
    Location.mk
      <$> Validated.required members "file" Validated.string
      <*> Validated.required members "start" Validated.integer
      <*> Validated.required members "end" Validated.integer

/-- The location as JSON. -/
def toJson (location : Location) : Json :=
  .obj [("file", .str location.file), ("start", .int location.start), ("end", .int location.stop)]

/-- Whether a location lies within another of its file. -/
def within (inner outer : Location) : Bool :=
  outer.file == inner.file && outer.start ≤ inner.start && inner.stop ≤ outer.stop

/-- Locations with one more: one within another adds nothing, and one that starts where the last
one ends extends it. -/
def insert (locations : List Location) (candidate : Location) : List Location :=
  if locations.any candidate.within then locations
  else
    match locations.getLast? with
    | some last =>
      if last.file = candidate.file ∧ last.stop = candidate.start then
        locations.dropLast ++ [⟨last.file, last.start, candidate.stop⟩]
      else locations ++ [candidate]
    | none => [candidate]

end Location

namespace Placed

/-- Whether a node is, or stands in, a call of an ignored name. -/
def isIgnored (placed : Placed) (ignored : List String) : Bool :=
  placed.ancestors.any fun node => node.callee?.any ignored.contains

/-- The range of an origin in a node: its own octets in a text, all of the node elsewhere. -/
def locate (placed : Placed) (file : FileId) (origin : Origin) : Location :=
  if placed.node.kind = .text then
    ⟨file, placed.start + origin.start, placed.start + origin.stop⟩
  else ⟨file, placed.start, placed.stop⟩

end Placed

namespace PositionMap

/-- The range of a character; none for a character without a node, of another file than the one
of interest, or in an ignored call. -/
def candidate? (map : PositionMap) (world : World) (interest : Option FileId)
    (ignored : List String) (index : Nat) : Option Location :=
  match map.origin? index with
  | none => none
  | some origin =>
    match origin.span.file with
    | none => none
    | some file =>
      if interest.any (· ≠ file) then none
      else
        match world.find? origin.span with
        | none => none
        | some placed =>
          if placed.isIgnored ignored then none else some (placed.locate file origin)

/-- Characters of the stream that a suggestion is about. -/
def covered (map : PositionMap) (suggestion : Suggestion) : List Nat :=
  (List.range (min suggestion.stop map.stream.length)).drop suggestion.start

/-- Ranges of the document that a suggestion is about. -/
def locations (map : PositionMap) (world : World) (interest : Option FileId)
    (ignored : List String) (suggestion : Suggestion) : List Location :=
  ((map.covered suggestion).filterMap (map.candidate? world interest ignored)).foldl
    Location.insert []

end PositionMap
end ProseCheck
