import ProseCheck.Cache.Basic
import ProseCheck.Chunk.Draft
import ProseCheck.Diagnostic
import ProseCheck.Server.Basic

/-!
# Progress of a pass

A pass records the answers on its chunks in document order: their diagnostics, and the answers
themselves for the cache of the next pass.  At the first chunk without an answer it is aborted
with the diagnostics of the chunks before.
-/

namespace ProseCheck

/-- What a pass has recorded. -/
structure Progress (Key : Type) where
  /-- Diagnostics and dropped suggestions. -/
  findings : Findings
  /-- Answers for the next pass. -/
  cache : Cache Key
  /-- Number of chunks that the server answered. -/
  checked : Nat
  /-- Number of chunks whose answer was kept from before. -/
  cached : Nat

/-- Why a pass stopped, and what it had found. -/
structure Abortion where
  /-- Diagnostics of the chunks before. -/
  diagnostics : List Diagnostic
  /-- Error of the server. -/
  cause : ServerError

/-- Text of an abortion; faults of what the server said are not part of it. -/
def Abortion.message (abortion : Abortion) : String :=
  let found := s!"check aborted after {abortion.diagnostics.length} diagnostics"
  match abortion.cause with
  | .invalidSuggestion _ => found
  | cause => s!"{found}: {cause.message}"

/-- A chunk with what came of it. -/
structure Settled where
  /-- The chunk. -/
  chunk : Chunk
  /-- Whether the answer was kept from before. -/
  kept : Bool
  /-- The answer, or why there is none. -/
  outcome : Outcome

namespace Progress

variable {Key : Type} [DecidableEq Key]

/-- Nothing recorded. -/
def start : Progress Key := ⟨.empty, .empty, 0, 0⟩

/-- Records the answer on a chunk. -/
def record (keyOf : Text → String → Key) (scope : Scope) (progress : Progress Key) (chunk : Chunk)
    (kept : Bool) (answer : Answer) : Progress Key where
  findings := progress.findings.add scope chunk.map answer
  cache := progress.cache.insert (keyOf chunk.stream chunk.language) answer
  checked := if kept then progress.checked else progress.checked + 1
  cached := if kept then progress.cached + 1 else progress.cached

/-- Records what came of chunks, in order, up to the first without an answer. -/
def settle (keyOf : Text → String → Key) (scope : Scope) (progress : Progress Key) :
    List Settled → Except Abortion (Progress Key)
  | [] => .ok progress
  | ⟨chunk, kept, .ok answer⟩ :: rest =>
    settle keyOf scope (progress.record keyOf scope chunk kept answer) rest
  | ⟨_, _, .error cause⟩ :: _ => .error ⟨progress.findings.diagnostics, cause⟩

end Progress
end ProseCheck
