import ProseCheck.Proofs.Check.Ordered
import ProseCheck.Proofs.Location.Renaming
import ProseCheck.Proofs.Location.Union
import ProseCheck.Proofs.Source.Line

/-!
# Reported positions

Diagnostics are printed with the line and column at which their first location starts and with those
at which it stops.  A position leads back to its octet, and locations do not stop before they start,
so no diagnostic is printed with a start behind its end.
-/

namespace ProseCheck

/-- Whether the file of a location can be shown, with a start that is not behind the end. -/
def Location.IsPlaced (world : World) (location : Location) : Prop :=
  ∃ source, world.source location.file = .ok source ∧
    toLex (source.position location.start) ≤ toLex (source.position location.stop)

/-- A diagnostic whose locations can all be shown. -/
def Diagnostic.IsPlaced (world : World) (diagnostic : Diagnostic) : Prop :=
  ∀ location ∈ diagnostic.locations, location.IsPlaced world

/-- A diagnostic on a chunk of a world can be shown. -/
theorem Chunk.isPlaced_of_locate? {scope : Scope} {chunk : Chunk} (sized : chunk.map.IsSized)
    {suggestion : Suggestion} {diagnostic : Diagnostic}
    (located : chunk.locate? scope suggestion = some diagnostic) :
    diagnostic.IsPlaced scope.world := by
  intro location mem
  rw [locations_of_locate? located] at mem
  have ordered := PositionMap.allOrdered_locations sized location mem
  obtain ⟨source, found⟩ := World.exists_source_of_mem_files
    (PositionMap.file_of_mem_locations location mem)
  exact ⟨source, found, source.position_monotone ordered⟩

variable {Key State : Type} [DecidableEq Key]

namespace Check

/-- Diagnostics of a pass that has ended, also of one that was aborted. -/
def found : Except Abortion (Progress Key) → List Diagnostic
  | .ok progress => progress.findings.diagnostics
  | .error abortion => abortion.diagnostics

/-- Diagnostics of a check, also of one that was aborted. -/
def reported : Except Abortion (Report × Cache Key) → List Diagnostic
  | .ok (report, _) => report.diagnostics
  | .error abortion => abortion.diagnostics

/-- What is found comes of answers on the first chunks. -/
theorem exists_records_of_found (keyOf : Text → String → Key) (scope : Scope)
    (settled : List Settled) :
    ∃ records : List Record, records.map Record.settled <+: settled ∧
      found (Progress.start.settle keyOf scope settled) =
        records.flatMap (Record.diagnostics scope) := by
  rcases settled_cases settled with ⟨records, rfl⟩ | ⟨records, chunk, kept, cause, rest, rfl⟩
  · refine ⟨records, List.prefix_refl _, ?_⟩
    rw [Progress.settle_map_settled, found, Progress.diagnostics_recordAll_start]
  · refine ⟨records, List.prefix_append _ _, ?_⟩
    rw [Progress.settle_records, Progress.settle, found, Progress.diagnostics_recordAll_start]

theorem reported_run (keyOf : Text → String → Key) (server : Server State) (state : State)
    (assignment : Assignment) (cache : Cache Key) :
    reported (run keyOf server state assignment cache).1 =
      found (Progress.start.settle keyOf assignment.scope
        (ask server assignment.request assignment.inTurn state
          (jobs keyOf cache assignment.chunks)).1) := by
  rw [run_fst]
  cases Progress.start.settle keyOf assignment.scope _ <;> rfl

/-- What is found on chunks with sized runs can be shown. -/
theorem isPlaced_of_mem_found (keyOf : Text → String → Key) (scope : Scope)
    {settled : List Settled} (sized : ∀ chunk ∈ settled.map Settled.chunk, chunk.map.IsSized) :
    ∀ diagnostic ∈ found (Progress.start.settle keyOf scope settled),
      diagnostic.IsPlaced scope.world := by
  obtain ⟨records, recorded, found_eq⟩ := exists_records_of_found keyOf scope settled
  intro diagnostic mem
  rw [found_eq] at mem
  obtain ⟨record, record_mem, mem⟩ := List.mem_flatMap.1 mem
  obtain ⟨suggestion, -, located⟩ := List.mem_filterMap.1 mem
  have settled_mem := recorded.subset (List.mem_map_of_mem record_mem)
  exact Chunk.isPlaced_of_locate? (sized _ (List.mem_map_of_mem settled_mem)) located

/-- Positions are faithful.  The position of an octet between two characters of a source leads back
to it: its line exists and starts at the octet or in front of it, and as many characters as its
column says, from the start of the line on, end at the octet, as they do at no other octet.  Octets
between characters therefore have positions of their own, in their order, and each line that exists
is that of its first octet.  All diagnostics of a check, also of one that is aborted, and those of a
pass are in files that can be shown, and no location of theirs has a start behind its end. -/
theorem positions_are_faithful :
    (∀ source : Source,
      (∀ offset, Utf8.IsBoundary source.text offset →
        source.LeadsTo (source.position offset) offset) ∧
      (∀ position offset other, source.LeadsTo position offset → source.LeadsTo position other →
        offset = other) ∧
      Set.InjOn source.position {offset | Utf8.IsBoundary source.text offset} ∧
      StrictMonoOn (fun offset => toLex (source.position offset))
        {offset | Utf8.IsBoundary source.text offset} ∧
      ∀ line start, source.lineStart? line = some start → source.lineOf start = line) ∧
    ∀ (keyOf : Text → String → Key) (assignment : Assignment) (cache : Cache Key),
      (∀ (server : Server State) (state : State),
        ∀ diagnostic ∈ reported (run keyOf server state assignment cache).1,
          diagnostic.IsPlaced assignment.world) ∧
      ∀ outcomes marks pass,
        Pass.Course keyOf outcomes (.start keyOf assignment cache) marks pass →
          ∀ ending, pass.verdict? = some ending →
            ∀ diagnostic ∈ found ending, diagnostic.IsPlaced assignment.world := by
  refine ⟨fun source => ⟨fun offset => Source.leadsTo_position, fun position offset other =>
    Source.LeadsTo.unique, source.position_injOn, source.position_strictMonoOn,
    fun line start => Source.lineOf_lineStart⟩, fun keyOf assignment cache => ⟨?_, ?_⟩⟩
  · intro server state
    have asked := map_chunk_ask_prefix server assignment.request assignment.inTurn state
      (jobs keyOf cache assignment.chunks)
    rw [map_chunk_jobs] at asked
    rw [reported_run]
    exact isPlaced_of_mem_found keyOf assignment.scope fun chunk mem =>
      World.isSized_of_mem_chunks (asked.subset mem)
  · intro outcomes marks pass course ending ends
    rw [Pass.start_eq_ofChunks] at course
    rw [course.onCourse.verdict_eq ends]
    refine isPlaced_of_mem_found keyOf assignment.scope ?_
    rw [map_chunk_foreseen]
    exact fun chunk => World.isSized_of_mem_chunks

/-- A file of three lines, which end in different ways, with letters of several octets. -/
def mixed : Source :=
  .ofTree "main" (.inner .markup [.leaf .text ['é', '\r', '\n', 'b', '\u2028', 'ß']])

/-- The octets between the characters of the file have positions of their own, and the remarks on
two equal paragraphs can be shown. -/
theorem positions_are_faithful_mixed :
    (mixed.position 3 = (0, 2) ∧ mixed.LeadsTo (0, 2) 3 ∧
        mixed.position 8 = (2, 0) ∧ mixed.LeadsTo (2, 0) 8 ∧
        toLex (mixed.position 3) < toLex (mixed.position 8) ∧
        mixed.lineStart? 1 = some 4 ∧ mixed.lineOf 4 = 1) ∧
      ∃ report next after,
        run Prod.mk (fun (calls : Nat) _ => (.ok (remark calls), calls + 1)) 0 twins .empty =
            (.ok (report, next), after) ∧
          report.diagnostics.length = 2 ∧
            ∀ diagnostic ∈ report.diagnostics, diagnostic.IsPlaced twins.world := by
  obtain ⟨sources, checks⟩ := @positions_are_faithful (Text × String) Nat _
  obtain ⟨leads, -, -, strict, first_octet⟩ := sources mixed
  have pair : Utf8.IsBoundary mixed.text 3 :=
    ⟨['é', '\r'], ['\n', 'b', '\u2028', 'ß'], rfl, rfl⟩
  have last : Utf8.IsBoundary mixed.text 8 := ⟨['é', '\r', '\n', 'b', '\u2028'], ['ß'], rfl, rfl⟩
  have pair_eq : mixed.position 3 = (0, 2) := by decide +kernel
  have last_eq : mixed.position 8 = (2, 0) := by decide +kernel
  have second_line : mixed.lineStart? 1 = some 4 := by decide +kernel
  refine ⟨⟨pair_eq, pair_eq ▸ leads 3 pair, last_eq, last_eq ▸ leads 8 last,
    strict pair last (by decide), second_line, first_octet 1 4 second_line⟩, ?_⟩
  obtain ⟨report, next, after, succeeds, found⟩ : ∃ report next after,
      run Prod.mk (fun (calls : Nat) _ => (.ok (remark calls), calls + 1)) 0 twins .empty =
          (.ok (report, next), after) ∧ report.diagnostics.length = 2 :=
    ⟨_, _, _, rfl, by decide +kernel⟩
  have placed := (checks Prod.mk twins .empty).1 (fun calls _ => (.ok (remark calls), calls + 1)) 0
  rw [succeeds] at placed
  exact ⟨report, next, after, succeeds, found, placed⟩

end Check
end ProseCheck
