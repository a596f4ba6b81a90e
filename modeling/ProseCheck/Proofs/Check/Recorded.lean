import ProseCheck.Check.Pass
import ProseCheck.Proofs.Check.Record

/-!
# Passes and their records

Whatever answers come back, and in whichever order, a pass has recorded answers on the first of its
chunks, and its tasks stand for the others.  What may come of a chunk is left open: an invariant
carries any condition that the kept answers and those that come back meet.  Nor does it matter which
chunks are checked, so the invariant holds of passes over any chunks.
-/

namespace ProseCheck
namespace Task

/-- A task has come to nothing but what may come of its chunk. -/
def Fits (fits : Nat → Settled → Prop) (task : Task) : Prop :=
  match task.stage with
  | .kept answer => fits task.place ⟨task.chunk, true, .ok answer⟩
  | .settled outcome => fits task.place ⟨task.chunk, false, outcome⟩
  | .waiting | .asked | .withdrawn => True

/-- The record of a task that has an answer. -/
def record? (task : Task) : Option Record :=
  match task.stage with
  | .kept answer => some ⟨task.chunk, true, answer⟩
  | .settled (.ok answer) => some ⟨task.chunk, false, answer⟩
  | .settled (.error _) | .waiting | .asked | .withdrawn => none

theorem chunk_of_record? {task : Task} {record : Record} (recorded : task.record? = some record) :
    record.chunk = task.chunk := by
  unfold record? at recorded
  split at recorded
  · rw [← Option.some.inj recorded]
  · rw [← Option.some.inj recorded]
  all_goals contradiction

theorem fits_of_record? {fits : Nat → Settled → Prop} {task : Task} {record : Record}
    (task_fits : task.Fits fits) (recorded : task.record? = some record) :
    fits task.place record.settled := by
  unfold record? at recorded
  unfold Fits at task_fits
  split at recorded
  · rename_i answer stage_eq
    rw [stage_eq] at task_fits
    obtain rfl := Option.some.inj recorded
    exact task_fits
  · rename_i answer stage_eq
    rw [stage_eq] at task_fits
    obtain rfl := Option.some.inj recorded
    exact task_fits
  all_goals contradiction

theorem fits_settle {fits : Nat → Settled → Prop} {task : Task} {outcome : Outcome}
    (task_fits : task.Fits fits)
    (outcome_fits : task.isAsked = true → fits task.place ⟨task.chunk, false, outcome⟩) :
    (task.settle outcome).Fits fits := by
  unfold settle
  split
  · rename_i asked
    exact outcome_fits asked
  · exact task_fits

theorem fits_withdraw {fits : Nat → Settled → Prop} {task : Task} (task_fits : task.Fits fits) :
    task.withdraw.Fits fits := by
  unfold withdraw
  split
  · trivial
  · exact task_fits

@[simp]
theorem chunk_settle (task : Task) (outcome : Outcome) :
    (task.settle outcome).chunk = task.chunk := by
  unfold settle
  split <;> rfl

@[simp]
theorem place_settle (task : Task) (outcome : Outcome) :
    (task.settle outcome).place = task.place := by
  unfold settle
  split <;> rfl

@[simp]
theorem chunk_withdraw (task : Task) : task.withdraw.chunk = task.chunk := by
  unfold withdraw
  split <;> rfl

@[simp]
theorem place_withdraw (task : Task) : task.withdraw.place = task.place := by
  unfold withdraw
  split <;> rfl

end Task

namespace Pass

variable {Key : Type} [DecidableEq Key] {keyOf : Text → String → Key} {assignment : Assignment}
  {chunks : List Chunk} {fits : Nat → Settled → Prop} {pass : Pass Key} {records : List Record}

/-- A pass over some chunks before its first request, with the answers that a cache keeps. -/
def ofChunks (keyOf : Text → String → Key) (assignment : Assignment) (chunks : List Chunk)
    (cache : Cache Key) : Pass Key where
  assignment := assignment
  size := chunks.length
  progress := .start
  tasks := (Check.jobs keyOf cache chunks).mapIdx Task.ofJob

/-- A pass that starts is one over the chunks of its assignment. -/
theorem start_eq_ofChunks (keyOf : Text → String → Key) (assignment : Assignment)
    (cache : Cache Key) :
    start keyOf assignment cache = ofChunks keyOf assignment assignment.chunks cache :=
  rfl

/-- A pass over some chunks that has recorded some answers on the first of them. -/
structure RecordedOn (keyOf : Text → String → Key) (assignment : Assignment) (chunks : List Chunk)
    (fits : Nat → Settled → Prop) (pass : Pass Key) (records : List Record) : Prop where
  assignment_eq : pass.assignment = assignment
  size_eq : pass.size = chunks.length
  progress_eq : pass.progress = Progress.start.recordAll keyOf assignment.scope records
  chunks_eq : records.map Record.chunk ++ pass.tasks.map Task.chunk = chunks
  place_eq : ∀ index task, pass.tasks[index]? = some task → task.place = records.length + index
  records_fit : ∀ index record, records[index]? = some record → fits index record.settled
  tasks_fit : ∀ task ∈ pass.tasks, task.Fits fits

/-- A pass that has recorded some answers on the first chunks of its assignment. -/
abbrev Recorded (keyOf : Text → String → Key) (assignment : Assignment)
    (fits : Nat → Settled → Prop) (pass : Pass Key) (records : List Record) : Prop :=
  RecordedOn keyOf assignment assignment.chunks fits pass records

/-- A review records the first task if that has an answer. -/
theorem reviewFrom_cons (keyOf : Text → String → Key) (scope : Scope) (progress : Progress Key)
    (task : Task) (rest : List Task) :
    reviewFrom keyOf scope progress (task :: rest) =
      match task.record? with
      | some record =>
        reviewFrom keyOf scope
          (progress.record keyOf scope record.chunk record.kept record.answer) rest
      | none => (progress, task :: rest) := by
  obtain ⟨place, chunk, stage⟩ := task
  cases stage with
  | kept answer | waiting | asked | withdrawn => rfl
  | settled outcome => cases outcome <;> rfl

/-- Each job has one task, in its place. -/
theorem getElem?_tasks_ofChunks (keyOf : Text → String → Key) (assignment : Assignment)
    (chunks : List Chunk) (cache : Cache Key) (index : Nat) :
    (ofChunks keyOf assignment chunks cache).tasks[index]? =
      (Check.jobs keyOf cache chunks)[index]?.map (Task.ofJob index) :=
  List.getElem?_mapIdx

namespace RecordedOn

/-- A pass that starts has recorded nothing. -/
theorem start {cache : Cache Key}
    (kept_fit : ∀ index job answer,
      (Check.jobs keyOf cache chunks)[index]? = some job → job.kept = some answer →
        fits index ⟨job.chunk, true, .ok answer⟩) :
    RecordedOn keyOf assignment chunks fits (ofChunks keyOf assignment chunks cache) [] where
  assignment_eq := rfl
  size_eq := rfl
  progress_eq := rfl
  chunks_eq := by
    apply List.ext_getElem?
    intro index
    have jobs_eq := congrArg (·[index]?) (Check.map_chunk_jobs keyOf cache chunks)
    simp only [List.getElem?_map] at jobs_eq
    rw [← jobs_eq, List.map_nil, List.nil_append, List.getElem?_map, getElem?_tasks_ofChunks,
      Option.map_map]
    rfl
  place_eq := by
    intro index task found
    rw [getElem?_tasks_ofChunks] at found
    obtain ⟨job, -, rfl⟩ := Option.map_eq_some_iff.1 found
    simp [Task.ofJob]
  records_fit := by simp
  tasks_fit := by
    intro task mem
    obtain ⟨index, found⟩ := List.getElem?_of_mem mem
    rw [getElem?_tasks_ofChunks] at found
    obtain ⟨⟨chunk, kept⟩, job_eq, rfl⟩ := Option.map_eq_some_iff.1 found
    cases kept with
    | none => trivial
    | some answer => exact kept_fit index ⟨chunk, some answer⟩ answer job_eq rfl

/-- Tasks may come further without a record. -/
theorem retask (recorded : RecordedOn keyOf assignment chunks fits pass records)
    {tasks : List Task}
    (chunks_eq : tasks.map Task.chunk = pass.tasks.map Task.chunk)
    (places_eq : tasks.map Task.place = pass.tasks.map Task.place)
    (fit : ∀ task ∈ tasks, task.Fits fits) :
    RecordedOn keyOf assignment chunks fits { pass with tasks } records where
  assignment_eq := recorded.assignment_eq
  size_eq := recorded.size_eq
  progress_eq := recorded.progress_eq
  chunks_eq := by rw [← recorded.chunks_eq, chunks_eq]
  place_eq := by
    intro index task found
    have at_index := congrArg (·[index]?) places_eq
    simp only [List.getElem?_map, found, Option.map_some] at at_index
    obtain ⟨old, old_found, place_eq⟩ := Option.map_eq_some_iff.1 at_index.symm
    rw [← place_eq, recorded.place_eq index old old_found]
  records_fit := recorded.records_fit
  tasks_fit := fit

theorem change (recorded : RecordedOn keyOf assignment chunks fits pass records) (place : Nat)
    {change : Task → Task} (chunk_eq : ∀ task, (change task).chunk = task.chunk)
    (place_eq : ∀ task, (change task).place = task.place)
    (fit : ∀ task ∈ pass.tasks, task.place = place → (change task).Fits fits) :
    RecordedOn keyOf assignment chunks fits (pass.change place change) records := by
  refine recorded.retask ?_ ?_ ?_
  · rw [List.map_map]
    refine List.map_congr_left fun task _ => ?_
    rw [Function.comp_apply]
    split
    · exact chunk_eq task
    · rfl
  · rw [List.map_map]
    refine List.map_congr_left fun task _ => ?_
    rw [Function.comp_apply]
    split
    · exact place_eq task
    · rfl
  · intro task mem
    obtain ⟨old, old_mem, rfl⟩ := List.mem_map.1 mem
    split
    · rename_i at_place
      exact fit old old_mem at_place
    · exact recorded.tasks_fit old old_mem

/-- A request goes out. -/
theorem launch (recorded : RecordedOn keyOf assignment chunks fits pass records) {task : Task}
    {next : Pass Key} (launched : pass.launch = some (task, next)) :
    RecordedOn keyOf assignment chunks fits next records := by
  obtain ⟨sent, -, same⟩ := Option.map_eq_some_iff.1 launched
  obtain ⟨rfl, rfl⟩ := Prod.mk.inj same
  exact recorded.change _ (fun _ => rfl) (fun _ => rfl) (fun _ _ _ => trivial)

/-- An answer comes back that may come of its chunk. -/
theorem answer (recorded : RecordedOn keyOf assignment chunks fits pass records) {place : Nat}
    {outcome : Outcome}
    (outcome_fits : ∀ task ∈ pass.tasks, task.place = place → task.isAsked = true →
      fits task.place ⟨task.chunk, false, outcome⟩) :
    RecordedOn keyOf assignment chunks fits (pass.answer place outcome) records := by
  refine recorded.change place (fun task => task.chunk_settle outcome)
    (fun task => task.place_settle outcome) ?_
  intro task mem at_place
  exact Task.fits_settle (recorded.tasks_fit task mem) (outcome_fits task mem at_place)

/-- A request is given up. -/
theorem withdraw (recorded : RecordedOn keyOf assignment chunks fits pass records) :
    RecordedOn keyOf assignment chunks fits pass.withdraw records := by
  unfold Pass.withdraw
  split
  · exact recorded
  · rename_i first rest tasks_eq
    have tasks_fit := recorded.tasks_fit
    rw [tasks_eq] at tasks_fit
    obtain ⟨first_fits, rest_fit⟩ := List.forall_mem_cons.1 tasks_fit
    refine recorded.retask ?_ ?_ (List.forall_mem_cons.2 ⟨Task.fits_withdraw first_fits, rest_fit⟩)
    · simp [tasks_eq]
    · simp [tasks_eq]

/-- The answer on the first task is recorded. -/
theorem pop (recorded : RecordedOn keyOf assignment chunks fits pass records) {task : Task}
    {rest : List Task} (tasks_eq : pass.tasks = task :: rest) {record : Record}
    (record_eq : task.record? = some record) :
    RecordedOn keyOf assignment chunks fits
      { pass with
        progress :=
          pass.progress.record keyOf assignment.scope record.chunk record.kept record.answer
        tasks := rest }
      (records ++ [record]) where
  assignment_eq := recorded.assignment_eq
  size_eq := recorded.size_eq
  progress_eq := by
    rw [Progress.recordAll_append, ← recorded.progress_eq]
    rfl
  chunks_eq := by
    rw [← recorded.chunks_eq, tasks_eq, List.map_append, List.map_cons,
      Task.chunk_of_record? record_eq]
    simp
  place_eq := by
    intro index other found
    have place_eq := recorded.place_eq (index + 1) other (by rw [tasks_eq]; exact found)
    rw [place_eq, List.length_append, List.length_singleton]
    omega
  records_fit := by
    intro index other found
    rcases Nat.lt_trichotomy index records.length with inside | rfl | beyond
    · rw [List.getElem?_append_left inside] at found
      exact recorded.records_fit index other found
    · -- The first task has the place that follows those of the records.
      obtain rfl : record = other := by simpa using found
      have place_eq := recorded.place_eq 0 task (by rw [tasks_eq]; rfl)
      have task_fits := recorded.tasks_fit task (by simp [tasks_eq])
      rw [Nat.add_zero] at place_eq
      rw [← place_eq]
      exact Task.fits_of_record? task_fits record_eq
    · have none_there : (records ++ [record])[index]? = none :=
        List.getElem?_eq_none (by rw [List.length_append, List.length_singleton]; omega)
      rw [none_there] at found
      contradiction
  tasks_fit := by
    intro other mem
    exact recorded.tasks_fit other (by simp [tasks_eq, mem])

/-- What has come back for the chunks at the front is recorded. -/
theorem review (recorded : RecordedOn keyOf assignment chunks fits pass records) :
    ∃ more, RecordedOn keyOf assignment chunks fits (pass.review keyOf) (records ++ more) := by
  have scope_eq : pass.assignment.scope = assignment.scope := by rw [recorded.assignment_eq]
  rw [Pass.review, scope_eq]
  simp only
  clear scope_eq
  -- With its first task recorded, the pass is another one with the remaining tasks.
  induction tasks_eq : pass.tasks generalizing pass records with
  | nil =>
      refine ⟨[], ?_⟩
      rw [List.append_nil, reviewFrom, ← tasks_eq]
      exact recorded
  | cons task rest induction =>
      rw [reviewFrom_cons]
      cases record_eq : task.record? with
      | none =>
          refine ⟨[], ?_⟩
          rw [List.append_nil]
          simp only
          rw [← tasks_eq]
          exact recorded
      | some record =>
          obtain ⟨more, later⟩ := induction (recorded.pop tasks_eq record_eq) rfl
          refine ⟨record :: more, ?_⟩
          rw [List.append_cons]
          exact later

/-- A pass that succeeds has recorded an answer on each of its chunks. -/
theorem of_succeeds (recorded : RecordedOn keyOf assignment chunks fits pass records)
    {progress : Progress Key} (succeeds : pass.verdict? = some (.ok progress)) :
    records.map Record.chunk = chunks ∧
      progress = Progress.start.recordAll keyOf assignment.scope records := by
  unfold verdict? at succeeds
  split at succeeds
  · rename_i tasks_eq
    have chunks_eq := recorded.chunks_eq
    rw [tasks_eq, List.map_nil, List.append_nil] at chunks_eq
    refine ⟨chunks_eq, ?_⟩
    rw [← recorded.progress_eq]
    simpa using succeeds.symm
  · simp at succeeds
  · simp at succeeds

/-- A pass that fails has recorded answers on the chunks before the one whose request failed. -/
theorem of_fails (recorded : RecordedOn keyOf assignment chunks fits pass records)
    {abortion : Abortion} (fails : pass.verdict? = some (.error abortion)) :
    ∃ chunk rest, records.map Record.chunk ++ chunk :: rest = chunks ∧
      fits records.length ⟨chunk, false, .error abortion.cause⟩ ∧
      abortion.diagnostics =
        (Progress.start.recordAll keyOf assignment.scope records :
          Progress Key).findings.diagnostics := by
  unfold verdict? at fails
  split at fails
  · simp at fails
  · rename_i place chunk cause rest tasks_eq
    obtain rfl : _ = abortion := Except.error.inj (Option.some.inj fails)
    have chunks_eq := recorded.chunks_eq
    have place_eq := recorded.place_eq 0 _ (by rw [tasks_eq]; rfl)
    have first_fits := recorded.tasks_fit _ (by rw [tasks_eq]; exact List.mem_cons_self)
    rw [tasks_eq, List.map_cons] at chunks_eq
    rw [Nat.add_zero] at place_eq
    refine ⟨chunk, rest.map Task.chunk, chunks_eq, ?_, ?_⟩
    · rw [← place_eq]
      exact first_fits
    · rw [← recorded.progress_eq]
  · simp at fails

end RecordedOn
end Pass
end ProseCheck
