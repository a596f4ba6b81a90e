import ProseCheck.Check.Chunks
import ProseCheck.Check.Progress

/-!
# Checks

A check converts a world to chunks, takes the answers that a cache keeps, asks the server for
the others, and reports diagnostics in document order.  Answers are taken from the cache before
the first request, so chunks of equal text get theirs in document order.  Requests go out in
turn, each after the answer to the one before, or side by side.
-/

namespace ProseCheck

/-- A chunk with the answer that was kept for it. -/
structure Job where
  /-- The chunk. -/
  chunk : Chunk
  /-- Answer from the cache. -/
  kept : Option Answer

/-- What a check found. -/
structure Report where
  /-- Diagnostics in document order. -/
  diagnostics : List Diagnostic
  /-- Number of chunks. -/
  chunks : Nat
  /-- Number of chunks that the server answered. -/
  checked : Nat
  /-- Number of chunks whose answer was kept. -/
  cached : Nat
  /-- Remarks for the user. -/
  warnings : List String

/-- What is to be checked and how. -/
structure Assignment where
  /-- The document. -/
  world : World
  /-- Options of the check. -/
  options : Options
  /-- Whether all files are reported, and not only the main one. -/
  allFiles : Bool

namespace Assignment

/-- Chunks that are checked. -/
def chunks (assignment : Assignment) : List Chunk :=
  assignment.world.chunks assignment.options assignment.allFiles

/-- What is reported. -/
def scope (assignment : Assignment) : Scope :=
  ⟨assignment.world, if assignment.allFiles then none else assignment.world.main,
    assignment.options.ignoreFunctions⟩

/-- A list, or none if it is empty. -/
def unlessEmpty (names : List String) : Option (List String) :=
  if names.isEmpty then none else some names

/-- The request that checks a chunk. -/
def request (assignment : Assignment) (chunk : Chunk) : Request :=
  chunk.request (unlessEmpty assignment.options.disabledChecks)
    (unlessEmpty assignment.options.dictionary)

/-- Whether requests go out in turn. -/
def inTurn (assignment : Assignment) : Bool := assignment.options.concurrency ≤ 1

end Assignment

namespace Check

variable {Key State : Type} [DecidableEq Key]

/-- Chunks with the answers that a cache keeps for them, taken in order. -/
def jobs (keyOf : Text → String → Key) (cache : Cache Key) (chunks : List Chunk) : List Job :=
  chunks.zipWith Job.mk
    (cache.takeAll (chunks.map fun chunk => keyOf chunk.stream chunk.language)).1

/-- What comes of jobs.  Asking in turn ends with the first failure. -/
def ask (server : Server State) (request : Chunk → Request) (inTurn : Bool) (state : State) :
    List Job → List Settled × State
  | [] => ([], state)
  | ⟨chunk, some answer⟩ :: rest =>
    let (settled, state) := ask server request inTurn state rest
    (⟨chunk, true, .ok answer⟩ :: settled, state)
  | ⟨chunk, none⟩ :: rest =>
    match server state (request chunk) with
    | (.ok answer, state) =>
      let (settled, state) := ask server request inTurn state rest
      (⟨chunk, false, .ok answer⟩ :: settled, state)
    | (.error cause, state) =>
      let (settled, state) := if inTurn then ([], state) else ask server request inTurn state rest
      (⟨chunk, false, .error cause⟩ :: settled, state)

/-- The report of what was recorded on some chunks. -/
def report (chunks : Nat) (progress : Progress Key) : Report where
  diagnostics := progress.findings.diagnostics
  chunks := chunks
  checked := progress.checked
  cached := progress.cached
  warnings :=
    if progress.findings.dropped = 0 then []
    else [s!"{progress.findings.dropped} suggestions had no source location"]

/-- Runs a check with a cache; a check that succeeds gives the cache for the next one. -/
def run (keyOf : Text → String → Key) (server : Server State) (state : State)
    (assignment : Assignment) (cache : Cache Key) :
    Except Abortion (Report × Cache Key) × State :=
  let chunks := assignment.chunks
  let (settled, state) :=
    ask server assignment.request assignment.inTurn state (jobs keyOf cache chunks)
  match Progress.start.settle keyOf assignment.scope settled with
  | .ok progress => (.ok (report chunks.length progress, progress.cache), state)
  | .error abortion => (.error abortion, state)

end Check

namespace Report

/-- The report as JSON, with diagnostics as they are written elsewhere. -/
def toJson (report : Report) : Json :=
  .obj [("diagnostics", .arr (report.diagnostics.map Diagnostic.toJson)),
    ("chunks", .nat report.chunks), ("checked", .nat report.checked),
    ("cached", .nat report.cached), ("warnings", Json.strings report.warnings)]

end Report
end ProseCheck
