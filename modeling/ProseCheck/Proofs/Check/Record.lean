import ProseCheck.Check.Run
import ProseCheck.Proofs.Cache.Queue

/-!
# Records of a check

A check that succeeds has recorded one answer for each of its chunks, in order.  What it found, the
cache that it leaves and the numbers that it counts follow from these records; only the numbers
depend on which of the answers were kept from before.
-/

namespace ProseCheck

/-- A chunk with the answer that was recorded on it. -/
structure Record where
  /-- The chunk. -/
  chunk : Chunk
  /-- Whether the answer was kept from before. -/
  kept : Bool
  /-- The answer. -/
  answer : Answer

/-- Key of the paragraph of a chunk. -/
def Chunk.keyBy {Key : Type} (keyOf : Text → String → Key) (chunk : Chunk) : Key :=
  keyOf chunk.stream chunk.language

namespace Record

/-- What came of the chunk of a record. -/
def settled (record : Record) : Settled := ⟨record.chunk, record.kept, .ok record.answer⟩

/-- The job of a check for which the answer of a record is kept. -/
def job (record : Record) : Job := ⟨record.chunk, some record.answer⟩

/-- The record of the same answer when it is kept from before. -/
def again (record : Record) : Record := { record with kept := true }

/-- The answer of a record under its key. -/
def entry {Key : Type} (keyOf : Text → String → Key) (record : Record) : Key × Answer :=
  (record.chunk.keyBy keyOf, record.answer)

end Record

/-- The cache that keeps the answers of some records. -/
def Cache.ofRecords {Key : Type} [DecidableEq Key] (keyOf : Text → String → Key)
    (records : List Record) : Cache Key :=
  .ofAnswers (records.map (Record.entry keyOf))

/-- Findings with those of some records. -/
def Findings.addAll (scope : Scope) (findings : Findings) (records : List Record) : Findings :=
  records.foldl (fun findings record => findings.add scope record.chunk.map record.answer) findings

theorem Findings.addAll_again (scope : Scope) (findings : Findings) (records : List Record) :
    findings.addAll scope (records.map Record.again) = findings.addAll scope records := by
  rw [addAll, List.foldl_map]
  rfl

namespace Progress

theorem findings_start {Key : Type} : (start : Progress Key).findings = .empty := rfl

variable {Key : Type} [DecidableEq Key] (keyOf : Text → String → Key) (scope : Scope)

/-- Records some answers, in order. -/
def recordAll (progress : Progress Key) (records : List Record) : Progress Key :=
  records.foldl
    (fun progress record => progress.record keyOf scope record.chunk record.kept record.answer)
    progress

theorem recordAll_append (progress : Progress Key) (left right : List Record) :
    progress.recordAll keyOf scope (left ++ right) =
      (progress.recordAll keyOf scope left).recordAll keyOf scope right :=
  List.foldl_append

/-- What a progress holds after some records. -/
theorem recordAll_eq (progress : Progress Key) (records : List Record) :
    progress.recordAll keyOf scope records =
      ⟨progress.findings.addAll scope records,
        (records.map (Record.entry keyOf)).foldl
          (fun cache (key, answer) => cache.insert key answer) progress.cache,
        progress.checked + records.countP fun record => !record.kept,
        progress.cached + records.countP Record.kept⟩ := by
  induction records generalizing progress with
  | nil => rfl
  | cons first rest induction =>
      have step : progress.recordAll keyOf scope (first :: rest) =
          (progress.record keyOf scope first.chunk first.kept first.answer).recordAll keyOf scope
            rest := rfl
      rw [step, induction]
      cases kept : first.kept <;>
        simp [record, Findings.addAll, Record.entry, Chunk.keyBy, kept, Nat.add_assoc, Nat.add_comm]

theorem findings_recordAll (progress : Progress Key) (records : List Record) :
    (progress.recordAll keyOf scope records).findings = progress.findings.addAll scope records := by
  rw [recordAll_eq]

/-- The cache that some records leave keeps their answers. -/
theorem cache_recordAll_start (records : List Record) :
    ((start : Progress Key).recordAll keyOf scope records).cache =
      Cache.ofRecords keyOf records := by
  rw [recordAll_eq]
  rfl

/-- Records of answers that are kept from before find and leave the same. -/
theorem recordAll_again (records : List Record) :
    (start : Progress Key).recordAll keyOf scope (records.map Record.again) =
      ⟨(start.recordAll keyOf scope records : Progress Key).findings, .ofRecords keyOf records, 0,
        records.length⟩ := by
  have none_asked : (records.map Record.again).countP (fun record => !record.kept) = 0 := by
    simp [List.countP_map, Record.again, Function.comp_def]
  have all_kept : (records.map Record.again).countP Record.kept = records.length := by
    simp [List.countP_map, Record.again, Function.comp_def]
  have same_entries : (records.map Record.again).map (Record.entry keyOf) =
      records.map (Record.entry keyOf) := by
    rw [List.map_map]
    rfl
  rw [recordAll_eq, findings_recordAll, Findings.addAll_again, same_entries, none_asked, all_kept]
  simp [start, Cache.ofRecords, Cache.ofAnswers]

/-- Answers that came of chunks are recorded before what came of the others. -/
theorem settle_records (progress : Progress Key) (records : List Record) (rest : List Settled) :
    progress.settle keyOf scope (records.map Record.settled ++ rest) =
      (progress.recordAll keyOf scope records).settle keyOf scope rest := by
  induction records generalizing progress with
  | nil => rfl
  | cons first records induction =>
      rw [List.map_cons, List.cons_append, Record.settled, settle, induction]
      rfl

theorem settle_map_settled (progress : Progress Key) (records : List Record) :
    progress.settle keyOf scope (records.map Record.settled) =
      .ok (progress.recordAll keyOf scope records) := by
  have settled_eq := settle_records keyOf scope progress records []
  rwa [List.append_nil, settle] at settled_eq

/-- A pass that succeeds has recorded an answer on each chunk. -/
theorem exists_records_of_settle {progress final : Progress Key} {settled : List Settled}
    (succeeds : progress.settle keyOf scope settled = .ok final) :
    ∃ records, settled = records.map Record.settled ∧
      final = progress.recordAll keyOf scope records := by
  induction settled generalizing progress with
  | nil =>
      rw [settle] at succeeds
      exact ⟨[], rfl, (Except.ok.inj succeeds).symm⟩
  | cons first rest induction =>
      obtain ⟨chunk, kept, outcome⟩ := first
      cases outcome with
      | error cause =>
          rw [settle] at succeeds
          contradiction
      | ok answer =>
          rw [settle] at succeeds
          obtain ⟨records, rfl, final_eq⟩ := induction succeeds
          exact ⟨⟨chunk, kept, answer⟩ :: records, rfl, final_eq⟩

end Progress

namespace Check

variable {Key State : Type} [DecidableEq Key]

/-- Each chunk has one job, in order. -/
theorem map_chunk_jobs (keyOf : Text → String → Key) (cache : Cache Key) (chunks : List Chunk) :
    (jobs keyOf cache chunks).map Job.chunk = chunks := by
  have length_eq : (cache.takeAll (chunks.map fun chunk =>
      keyOf chunk.stream chunk.language)).1.length = chunks.length := by
    rw [Cache.length_takeAll, List.length_map]
  calc
    _ = (chunks.zip (cache.takeAll (chunks.map fun chunk =>
          keyOf chunk.stream chunk.language)).1).map Prod.fst := by
      rw [jobs, List.map_zipWith, List.zip, List.map_zipWith]
    _ = chunks := List.map_fst_zip (Nat.le_of_eq length_eq.symm)

/-- The cache of some records keeps all their answers for the same chunks. -/
theorem jobs_ofRecords (keyOf : Text → String → Key) (records : List Record) :
    jobs keyOf (.ofRecords keyOf records) (records.map Record.chunk) =
      records.map Record.job := by
  have taken := Cache.takeAll_of_queue_eq (Cache.queue_ofAnswers (records.map (Record.entry keyOf)))
  have keys_eq : (records.map (Record.entry keyOf)).map Prod.fst =
      (records.map Record.chunk).map fun chunk => keyOf chunk.stream chunk.language := by
    rw [List.map_map, List.map_map]
    rfl
  rw [jobs, Cache.ofRecords, ← keys_eq, taken, List.map_map, List.zipWith_map,
    List.zipWith_self]
  rfl

/-- Jobs with kept answers need no request. -/
theorem ask_jobs (server : Server State) (request : Chunk → Request) (inTurn : Bool) (state : State)
    (records : List Record) :
    ask server request inTurn state (records.map Record.job) =
      ((records.map Record.again).map Record.settled, state) := by
  induction records with
  | nil => rfl
  | cons first rest induction =>
      rw [List.map_cons, Record.job, ask, induction]
      rfl

/-- If an answer came of each job, the answers are those to the chunks of the jobs, in order. -/
theorem map_chunk_of_ask {server : Server State} {request : Chunk → Request} {inTurn : Bool}
    {state : State} {jobs : List Job} {records : List Record}
    (answered : (ask server request inTurn state jobs).1 = records.map Record.settled) :
    records.map Record.chunk = jobs.map Job.chunk := by
  induction jobs generalizing state records with
  | nil =>
      rw [ask] at answered
      rw [List.map_eq_nil_iff.1 answered.symm]
      rfl
  | cons first rest induction =>
      obtain ⟨chunk, kept⟩ := first
      cases kept with
      | some answer =>
          rw [ask] at answered
          obtain ⟨record, records, rfl, record_eq, rest_eq⟩ := List.map_eq_cons_iff.1 answered.symm
          rw [List.map_cons, List.map_cons, induction rest_eq.symm]
          have chunk_eq : record.chunk = chunk := congrArg Settled.chunk record_eq
          rw [chunk_eq]
      | none =>
          rw [ask] at answered
          split at answered
          · obtain ⟨record, records, rfl, record_eq, rest_eq⟩ :=
              List.map_eq_cons_iff.1 answered.symm
            rw [List.map_cons, List.map_cons, induction rest_eq.symm]
            have chunk_eq : record.chunk = chunk := congrArg Settled.chunk record_eq
            rw [chunk_eq]
          · obtain ⟨record, records, rfl, record_eq, -⟩ := List.map_eq_cons_iff.1 answered.symm
            have failed := congrArg Settled.outcome record_eq
            contradiction

/-- What comes of a check follows from what it records. -/
theorem run_fst (keyOf : Text → String → Key) (server : Server State) (state : State)
    (assignment : Assignment) (cache : Cache Key) :
    (run keyOf server state assignment cache).1 =
      (Progress.start.settle keyOf assignment.scope
        (ask server assignment.request assignment.inTurn state
          (jobs keyOf cache assignment.chunks)).1).map fun progress =>
        (report assignment.chunks.length progress, progress.cache) := by
  unfold run
  simp only
  split
  · rename_i progress settles
    rw [settles]
    rfl
  · rename_i abortion settles
    rw [settles]
    rfl

theorem run_snd (keyOf : Text → String → Key) (server : Server State) (state : State)
    (assignment : Assignment) (cache : Cache Key) :
    (run keyOf server state assignment cache).2 =
      (ask server assignment.request assignment.inTurn state
        (jobs keyOf cache assignment.chunks)).2 := by
  unfold run
  simp only
  split <;> rfl

/-- A check that succeeds has an answer for each of its chunks, and reports and leaves what it
recorded of them. -/
theorem exists_records_of_run {keyOf : Text → String → Key} {server : Server State}
    {state after : State} {assignment : Assignment} {cache next : Cache Key} {report : Report}
    (succeeds : run keyOf server state assignment cache = (.ok (report, next), after)) :
    ∃ records,
      (ask server assignment.request assignment.inTurn state
          (jobs keyOf cache assignment.chunks)).1 = records.map Record.settled ∧
        records.map Record.chunk = assignment.chunks ∧
        report = Check.report assignment.chunks.length
          (Progress.start.recordAll keyOf assignment.scope records) ∧
        next = .ofRecords keyOf records := by
  have recorded := run_fst keyOf server state assignment cache
  rw [succeeds] at recorded
  cases settles : Progress.start.settle keyOf assignment.scope
      (ask server assignment.request assignment.inTurn state
        (jobs keyOf cache assignment.chunks)).1 with
  | error abortion =>
      rw [settles] at recorded
      contradiction
  | ok progress =>
      rw [settles] at recorded
      obtain ⟨records, answered, rfl⟩ := Progress.exists_records_of_settle _ _ settles
      obtain ⟨rfl, rfl⟩ := Prod.mk.inj (Except.ok.inj recorded)
      refine ⟨records, answered, ?_, rfl, Progress.cache_recordAll_start _ _ _⟩
      rw [map_chunk_of_ask answered, map_chunk_jobs]

end Check
end ProseCheck
