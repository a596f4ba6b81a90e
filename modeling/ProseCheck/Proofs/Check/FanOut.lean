import Mathlib.Algebra.GroupWithZero.Nat
import ProseCheck.Proofs.Cache.Queue
import ProseCheck.Proofs.Check.Course
import ProseCheck.Proofs.Check.Recheck

/-!
# Requests side by side

How many requests may be under way, and in which order their answers come back, shows in nothing
that a pass finds or leaves.  The outcome of each request fixes what is found: where all chunks have
an answer, the located suggestions chunk by chunk, and else those on the chunks before the first
failure.
-/

namespace ProseCheck

/-- The diagnostic of a suggestion on a chunk, if it has a location. -/
def Chunk.locate? (scope : Scope) (chunk : Chunk) (suggestion : Suggestion) : Option Diagnostic :=
  Diagnostic.ofSuggestion? suggestion
    (chunk.map.locations scope.world scope.interest scope.ignored suggestion)

/-- A diagnostic on a chunk has the locations of its suggestion. -/
theorem Chunk.locations_of_locate? {scope : Scope} {chunk : Chunk} {suggestion : Suggestion}
    {diagnostic : Diagnostic} (located : chunk.locate? scope suggestion = some diagnostic) :
    diagnostic.locations =
      chunk.map.locations scope.world scope.interest scope.ignored suggestion := by
  rw [locate?, Diagnostic.ofSuggestion?] at located
  split at located
  · rw [← Option.some.inj located]
  · contradiction

/-- Diagnostics of the answer of a record, in the order of its suggestions. -/
def Record.diagnostics (scope : Scope) (record : Record) : List Diagnostic :=
  record.answer.filterMap (record.chunk.locate? scope)

namespace Findings

variable (scope : Scope)

/-- A suggestion with a location becomes a diagnostic, and any other is counted. -/
theorem addOne_eq (chunk : Chunk) (findings : Findings) (suggestion : Suggestion) :
    addOne scope chunk.map findings suggestion =
      ⟨findings.diagnostics ++ (chunk.locate? scope suggestion).toList,
        findings.dropped + if (chunk.locate? scope suggestion).isNone then 1 else 0⟩ := by
  rw [addOne]
  split
  · rename_i diagnostic located
    have locate_eq : chunk.locate? scope suggestion = some diagnostic := located
    simp [locate_eq]
  · rename_i nowhere
    have locate_eq : chunk.locate? scope suggestion = none := nowhere
    simp [locate_eq]

/-- Diagnostics are added in the order of the suggestions. -/
theorem diagnostics_add (chunk : Chunk) (findings : Findings) (answer : Answer) :
    (findings.add scope chunk.map answer).diagnostics =
      findings.diagnostics ++ answer.filterMap (chunk.locate? scope) := by
  induction answer generalizing findings with
  | nil => simp [add]
  | cons first rest induction =>
      have step : findings.add scope chunk.map (first :: rest) =
          (addOne scope chunk.map findings first).add scope chunk.map rest := rfl
      rw [step, induction, addOne_eq, List.filterMap_cons]
      cases chunk.locate? scope first <;> simp

/-- Every suggestion is a diagnostic or dropped. -/
theorem count_add (chunk : Chunk) (findings : Findings) (answer : Answer) :
    (findings.add scope chunk.map answer).diagnostics.length +
        (findings.add scope chunk.map answer).dropped =
      findings.diagnostics.length + findings.dropped + answer.length := by
  induction answer generalizing findings with
  | nil => rfl
  | cons first rest induction =>
      have step : findings.add scope chunk.map (first :: rest) =
          (addOne scope chunk.map findings first).add scope chunk.map rest := rfl
      rw [step, induction, addOne_eq, List.length_cons]
      cases chunk.locate? scope first <;> simp <;> omega

theorem diagnostics_addAll (findings : Findings) (records : List Record) :
    (findings.addAll scope records).diagnostics =
      findings.diagnostics ++ records.flatMap (Record.diagnostics scope) := by
  induction records generalizing findings with
  | nil => simp [addAll]
  | cons first rest induction =>
      have step : findings.addAll scope (first :: rest) =
          (findings.add scope first.chunk.map first.answer).addAll scope rest := rfl
      rw [step, induction, diagnostics_add, List.flatMap_cons, List.append_assoc]
      rfl

theorem count_addAll (findings : Findings) (records : List Record) :
    (findings.addAll scope records).diagnostics.length + (findings.addAll scope records).dropped =
      findings.diagnostics.length + findings.dropped +
        (records.map fun record => record.answer.length).sum := by
  induction records generalizing findings with
  | nil => rfl
  | cons first rest induction =>
      have step : findings.addAll scope (first :: rest) =
          (findings.add scope first.chunk.map first.answer).addAll scope rest := rfl
      rw [step, induction, count_add, List.map_cons, List.sum_cons, Nat.add_assoc]

end Findings

theorem Progress.diagnostics_recordAll_start {Key : Type} [DecidableEq Key]
    (keyOf : Text → String → Key) (scope : Scope) (records : List Record) :
    ((start : Progress Key).recordAll keyOf scope records).findings.diagnostics =
      records.flatMap (Record.diagnostics scope) := by
  rw [findings_recordAll, Findings.diagnostics_addAll]
  rfl

/-- The assignment with another number of requests that may be under way. -/
def Assignment.sideBySide (assignment : Assignment) (concurrency : Nat) : Assignment :=
  { assignment with options := { assignment.options with concurrency } }

namespace Check

variable {Key State : Type} [DecidableEq Key]

/-- What a pass has found and leaves that has recorded an answer on each of its chunks. -/
structure Complete (keyOf : Text → String → Key) (scope : Scope) (records : List Record)
    (progress : Progress Key) : Prop where
  /-- Diagnostics are the located suggestions, chunk by chunk. -/
  diagnostics_eq : progress.findings.diagnostics = records.flatMap (Record.diagnostics scope)
  /-- A suggestion is a diagnostic or counted as dropped. -/
  found_eq : progress.findings.diagnostics.length + progress.findings.dropped =
    (records.map fun record => record.answer.length).sum
  cached_eq : progress.cached = records.countP Record.kept
  counted_eq : progress.checked + progress.cached = records.length
  /-- The next cache keeps one answer for each chunk, those of a key in the order of the chunks. -/
  size_eq : progress.cache.size = records.length
  queue_eq : ∀ key,
    progress.cache.queue key = Cache.answersOf key (records.map (Record.entry keyOf))

theorem complete_recordAll (keyOf : Text → String → Key) (scope : Scope) (records : List Record) :
    Complete keyOf scope records (Progress.start.recordAll keyOf scope records) where
  diagnostics_eq := Progress.diagnostics_recordAll_start keyOf scope records
  found_eq := by
    rw [Progress.findings_recordAll, Findings.count_addAll, Progress.findings_start]
    exact Nat.zero_add _
  cached_eq := by
    rw [Progress.recordAll_eq]
    exact Nat.zero_add _
  counted_eq := by
    have split_eq := List.length_eq_countP_add_countP Record.kept (l := records)
    rw [Progress.recordAll_eq, split_eq]
    simp only [Progress.start, Nat.zero_add]
    rw [Nat.add_comm]
    simp
  size_eq := by
    rw [Progress.cache_recordAll_start, Cache.ofRecords, Cache.size_ofAnswers, List.length_map]
  queue_eq := by
    intro key
    rw [Progress.cache_recordAll_start, Cache.ofRecords, Cache.queue_ofAnswers]

/-- How a pass ends by what comes of its chunks: with an answer on each, or at the first failure
with the diagnostics of the chunks before. -/
inductive Ends (keyOf : Text → String → Key) (scope : Scope) :
    List Settled → Except Abortion (Progress Key) → Prop where
  | complete {records : List Record} {progress : Progress Key} :
      Complete keyOf scope records progress →
      Ends keyOf scope (records.map Record.settled) (.ok progress)
  | fails (records : List Record) (chunk : Chunk) (cause : ServerError) (rest : List Settled) :
      Ends keyOf scope (records.map Record.settled ++ ⟨chunk, false, .error cause⟩ :: rest)
        (.error ⟨records.flatMap (Record.diagnostics scope), cause⟩)

/-- What came of chunks is an answer on each, or a failure after answers on those before. -/
theorem settled_cases (settled : List Settled) :
    (∃ records : List Record, settled = records.map Record.settled) ∨
      ∃ (records : List Record) (chunk : Chunk) (kept : Bool) (cause : ServerError)
        (rest : List Settled),
        settled = records.map Record.settled ++ ⟨chunk, kept, .error cause⟩ :: rest := by
  induction settled with
  | nil => exact .inl ⟨[], rfl⟩
  | cons first rest induction =>
      obtain ⟨chunk, kept, outcome⟩ := first
      cases outcome with
      | error cause => exact .inr ⟨[], chunk, kept, cause, rest, rfl⟩
      | ok answer =>
          rcases induction with ⟨records, rfl⟩ | ⟨records, other, other_kept, cause, rest, rfl⟩
          · exact .inl ⟨⟨chunk, kept, answer⟩ :: records, rfl⟩
          · exact .inr ⟨⟨chunk, kept, answer⟩ :: records, other, other_kept, cause, rest, rfl⟩

/-- The requests for jobs from a place on come to given outcomes if a server is asked in order. -/
def Gives (server : Server State) (request : Chunk → Request) (outcomes : Nat → Outcome) :
    Nat → State → List Job → Prop
  | _, _, [] => True
  | place, state, ⟨_, some _⟩ :: rest => Gives server request outcomes (place + 1) state rest
  | place, state, ⟨chunk, none⟩ :: rest =>
    (server state (request chunk)).1 = outcomes place ∧
      Gives server request outcomes (place + 1) (server state (request chunk)).2 rest

/-- What is recorded of jobs is what the outcomes of their requests make foreseen. -/
theorem settle_ask_of_gives (keyOf : Text → String → Key) (scope : Scope) {server : Server State}
    {request : Chunk → Request} (inTurn : Bool) {outcomes : Nat → Outcome} {place : Nat}
    {state : State} {jobs : List Job} (gives : Gives server request outcomes place state jobs)
    (progress : Progress Key) :
    progress.settle keyOf scope (ask server request inTurn state jobs).1 =
      progress.settle keyOf scope
        (jobs.mapIdx fun index => Job.foresee outcomes (place + index)) := by
  induction jobs generalizing place state progress with
  | nil => rfl
  | cons first rest induction =>
      have shifted : (rest.mapIdx fun index => Job.foresee outcomes (place + (index + 1))) =
          rest.mapIdx fun index => Job.foresee outcomes (place + 1 + index) := by
        congr 1
        funext index
        rw [Nat.add_right_comm, Nat.add_assoc]
      rw [List.mapIdx_cons, shifted, Nat.add_zero]
      obtain ⟨chunk, none | answer⟩ := first
      · obtain ⟨outcome_eq, rest_gives⟩ := gives
        rw [ask, Job.foresee]
        simp only
        split
        · rename_i answer next answered
          rw [answered] at outcome_eq rest_gives
          rw [← outcome_eq, Progress.settle, Progress.settle, induction rest_gives]
        · rename_i cause next answered
          rw [answered] at outcome_eq
          rw [← outcome_eq, Progress.settle, Progress.settle]
      · rw [ask, Job.foresee, Progress.settle, Progress.settle]
        exact induction gives _

/-- Nothing but a request fails. -/
theorem kept_of_fails {keyOf : Text → String → Key} {cache : Cache Key} {chunks : List Chunk}
    {outcomes : Nat → Outcome} {chunk : Chunk} {kept : Bool} {cause : ServerError}
    (mem : ⟨chunk, kept, .error cause⟩ ∈ foreseen keyOf cache chunks outcomes) : kept = false := by
  obtain ⟨place, inside, settled_eq⟩ := List.mem_mapIdx.1 mem
  unfold Job.foresee at settled_eq
  split at settled_eq
  · simp at settled_eq
  · exact (congrArg Settled.kept settled_eq).symm

theorem map_chunk_foreseen (keyOf : Text → String → Key) (cache : Cache Key) (chunks : List Chunk)
    (outcomes : Nat → Outcome) :
    (foreseen keyOf cache chunks outcomes).map Settled.chunk = chunks := by
  have same_chunk : ∀ place job, (Job.foresee outcomes place job).chunk = job.chunk := by
    rintro place ⟨chunk, none | answer⟩ <;> rfl
  conv_rhs => rw [← map_chunk_jobs keyOf cache chunks]
  apply List.ext_getElem?
  intro place
  rw [List.getElem?_map, foreseen, List.getElem?_mapIdx, List.getElem?_map, Option.map_map]
  exact congrArg (Option.map · _) (funext (same_chunk place))

/-- What is recorded of the outcomes that are foreseen ends a pass. -/
theorem ends_settle (keyOf : Text → String → Key) (scope : Scope) (cache : Cache Key)
    (chunks : List Chunk) (outcomes : Nat → Outcome) :
    Ends keyOf scope (foreseen keyOf cache chunks outcomes)
      (Progress.start.settle keyOf scope (foreseen keyOf cache chunks outcomes)) := by
  rcases settled_cases (foreseen keyOf cache chunks outcomes) with
    ⟨records, foreseen_eq⟩ | ⟨records, chunk, kept, cause, rest, foreseen_eq⟩
  · rw [foreseen_eq, Progress.settle_map_settled]
    exact .complete (complete_recordAll keyOf scope records)
  · have failed : ⟨chunk, kept, .error cause⟩ ∈ foreseen keyOf cache chunks outcomes := by
      simp [foreseen_eq]
    obtain rfl := kept_of_fails failed
    rw [foreseen_eq, Progress.settle_records, Progress.settle,
      Progress.diagnostics_recordAll_start]
    exact .fails records chunk cause rest

/-- What is kept for jobs is what is taken for their chunks. -/
theorem map_kept_jobs (keyOf : Text → String → Key) (cache : Cache Key) (chunks : List Chunk) :
    (jobs keyOf cache chunks).map Job.kept =
      (cache.takeAll (chunks.map (Chunk.keyBy keyOf))).1 := by
  have length_eq : (cache.takeAll (chunks.map (Chunk.keyBy keyOf))).1.length = chunks.length := by
    rw [Cache.length_takeAll, List.length_map]
  calc
    _ = (chunks.zip (cache.takeAll (chunks.map (Chunk.keyBy keyOf))).1).map Prod.snd := by
      rw [jobs, List.map_zipWith, List.zip, List.map_zipWith]
      rfl
    _ = _ := List.map_snd_zip (Nat.le_of_eq length_eq)

/-- How many requests may be under way, and in which order their answers come back, makes no
difference to the verdict of a pass; the outcomes of its requests fix it.  Every course of the pass
is bounded, has a move left until the pass ends, and ends it with that verdict, which is also that
of a check that asks in document order.  If no request fails, an answer is recorded on each chunk in
order; and else the diagnostics are those on the chunks before the first failure.  The answers that
are kept for the chunks are taken from a copy of the cache, which itself stays as it was. -/
theorem fan_out_agrees (keyOf : Text → String → Key) (assignment : Assignment)
    (chunks : List Chunk) (cache : Cache Key) (outcomes : Nat → Outcome) :
    ∃ verdict : Except Abortion (Progress Key),
      (foreseen keyOf cache chunks outcomes).map Settled.chunk = chunks ∧
      Ends keyOf assignment.scope (foreseen keyOf cache chunks outcomes) verdict ∧
      (∀ concurrency marks pass,
        Pass.Course keyOf outcomes
            (.ofChunks keyOf (assignment.sideBySide concurrency) chunks cache) marks pass →
          marks.length ≤ 3 * chunks.length ∧
            (pass.verdict? = none → ∃ mark next, Pass.Move keyOf outcomes pass mark next) ∧
              ∀ ending, pass.verdict? = some ending → ending = verdict) ∧
      (∀ (State : Type) (server : Server State) (state : State) (concurrency : Nat),
        chunks = assignment.chunks →
          Gives server assignment.request outcomes 0 state (jobs keyOf cache chunks) →
            (run keyOf server state (assignment.sideBySide concurrency) cache).1 =
              verdict.map fun progress => (report chunks.length progress, progress.cache)) ∧
      ∀ (family : CacheFamily Key) (passed lookup : String),
        passed ≠ lookup → family.cache passed = cache →
          ∀ takes, takes = chunks.map (fun chunk => .take lookup (chunk.keyBy keyOf)) →
            family.replies (.copy passed lookup :: takes) =
                none :: (jobs keyOf cache chunks).map Job.kept ∧
              (family.run (.copy passed lookup :: takes)).cache passed = cache := by
  refine ⟨_, map_chunk_foreseen keyOf cache chunks outcomes,
    ends_settle keyOf assignment.scope cache chunks outcomes, ?_, ?_, ?_⟩
  · intro concurrency marks pass course
    have on_course := course.onCourse
    refine ⟨course.length_le, fun goes_on => ?_, fun ending ends => ?_⟩
    · exact Pass.exists_move keyOf goes_on on_course.due
    · exact on_course.verdict_eq ends
  · rintro State server state concurrency rfl gives
    have settled_eq := settle_ask_of_gives keyOf assignment.scope
      (assignment.sideBySide concurrency).inTurn gives Progress.start
    simp only [Nat.zero_add] at settled_eq
    rw [run_fst]
    exact congrArg (Except.map _) settled_eq
  · rintro family passed lookup differs rfl takes rfl
    have taken := family.takes_of_copy differs (chunks.map (Chunk.keyBy keyOf))
    rw [List.map_map] at taken
    rw [map_kept_jobs]
    exact taken

/-- The outcomes of two requests of which the second fails. -/
def halfFailed (place : Nat) : Outcome :=
  if place = 0 then .ok (remark 0) else .error .requestFailed

theorem fan_out_agrees_twins :
    ∃ abortion marks pass,
      Pass.Course Prod.mk halfFailed
          (.ofChunks Prod.mk (twins.sideBySide 2) twins.chunks .empty) marks pass ∧
        pass.verdict? = some (.error abortion) ∧
          abortion.diagnostics.map Diagnostic.message = ["first"] ∧
            (run Prod.mk (fun (calls : Nat) _ => (halfFailed calls, calls + 1)) 0
              (twins.sideBySide 1) .empty).1 = .error abortion := by
  obtain ⟨verdict, -, -, courses, checks, -⟩ :=
    fan_out_agrees Prod.mk twins twins.chunks .empty halfFailed
  -- The failure comes back before the answer on the first chunk.
  obtain ⟨abortion, marks, pass, course, ends, messages⟩ : ∃ abortion marks pass,
      Pass.Course Prod.mk halfFailed
          (.ofChunks Prod.mk (twins.sideBySide 2) twins.chunks .empty) marks pass ∧
        pass.verdict? = some (.error abortion) ∧
          abortion.diagnostics.map Diagnostic.message = ["first"] := by
    have begun : Pass.Course Prod.mk halfFailed
        (.ofChunks Prod.mk (twins.sideBySide 2) twins.chunks .empty) [] _ := .start
    have first_sent := begun.move (.launch rfl)
    have second_sent := first_sent.move (.launch rfl)
    have failed := second_sent.move (.answer (List.mem_cons_of_mem _ List.mem_cons_self) rfl)
    have answered := failed.move (.answer List.mem_cons_self rfl)
    exact ⟨_, _, _, answered.move (.review rfl rfl), rfl, by decide +kernel⟩
  obtain ⟨-, -, agrees⟩ := courses 2 marks pass course
  have run_eq := checks Nat (fun calls _ => (halfFailed calls, calls + 1)) 0 1 rfl
    ⟨rfl, rfl, trivial⟩
  rw [← agrees _ ends] at run_eq
  exact ⟨abortion, marks, pass, course, ends, messages, run_eq⟩

end Check
end ProseCheck
