import Mathlib.Algebra.GroupWithZero.Nat
import Mathlib.Data.List.Induction
import Mathlib.Data.List.Nodup
import ProseCheck.Proofs.Check.Recorded

/-!
# Courses of a pass

While a pass runs, requests go out, answers come back and reviews record them, in an order that
nobody fixes.  Each move brings some task closer to its record, so a course of moves comes to an
end; and a pass that has not ended has a move left.  All along, the requests that went out and those
of the tasks that still wait are the same, in the order of the chunks.
-/

namespace ProseCheck

/-- What comes of a job in a place, if the request for each place has a given outcome. -/
def Job.foresee (outcomes : Nat → Outcome) (place : Nat) (job : Job) : Settled :=
  match job.kept with
  | some answer => ⟨job.chunk, true, .ok answer⟩
  | none => ⟨job.chunk, false, outcomes place⟩

namespace Check

variable {Key : Type} [DecidableEq Key]

/-- What comes of chunks, in order, if the request for each place has a given outcome. -/
def foreseen (keyOf : Text → String → Key) (cache : Cache Key) (chunks : List Chunk)
    (outcomes : Nat → Outcome) : List Settled :=
  (jobs keyOf cache chunks).mapIdx (Job.foresee outcomes)

/-- Something comes of a chunk in its place as foreseen. -/
def Foresees (keyOf : Text → String → Key) (cache : Cache Key) (chunks : List Chunk)
    (outcomes : Nat → Outcome) (place : Nat) (settled : Settled) : Prop :=
  (foreseen keyOf cache chunks outcomes)[place]? = some settled

/-- Chunks for which a cache keeps no answer, in order. -/
def unanswered (keyOf : Text → String → Key) (cache : Cache Key) (chunks : List Chunk) :
    List Chunk :=
  ((jobs keyOf cache chunks).filter fun job => job.kept.isNone).map Job.chunk

theorem length_jobs (keyOf : Text → String → Key) (cache : Cache Key) (chunks : List Chunk) :
    (jobs keyOf cache chunks).length = chunks.length := by
  have jobs_eq := congrArg List.length (map_chunk_jobs keyOf cache chunks)
  rwa [List.length_map] at jobs_eq

theorem length_foreseen (keyOf : Text → String → Key) (cache : Cache Key) (chunks : List Chunk)
    (outcomes : Nat → Outcome) :
    (foreseen keyOf cache chunks outcomes).length = chunks.length := by
  rw [foreseen, List.length_mapIdx, length_jobs]

/-- Nothing is asked about a chunk for which an answer is kept. -/
theorem map_kept_foreseen (keyOf : Text → String → Key) (cache : Cache Key) (chunks : List Chunk)
    (outcomes : Nat → Outcome) :
    (foreseen keyOf cache chunks outcomes).map Settled.kept =
      (jobs keyOf cache chunks).map fun job => job.kept.isSome := by
  have same_kept : ∀ place job, (Job.foresee outcomes place job).kept = job.kept.isSome := by
    rintro place ⟨chunk, none | answer⟩ <;> rfl
  apply List.ext_getElem?
  intro place
  rw [List.getElem?_map, foreseen, List.getElem?_mapIdx, List.getElem?_map, Option.map_map]
  exact congrArg (Option.map · _) (funext (same_kept place))

theorem foresees_of_job {keyOf : Text → String → Key} {cache : Cache Key} {chunks : List Chunk}
    {outcomes : Nat → Outcome} {place : Nat} {job : Job}
    (job_eq : (jobs keyOf cache chunks)[place]? = some job) :
    Foresees keyOf cache chunks outcomes place (job.foresee outcomes place) := by
  rw [Foresees, foreseen, List.getElem?_mapIdx, job_eq, Option.map_some]

end Check

namespace Task

/-- The task whose request has gone out. -/
def sent (task : Task) : Task := { task with stage := .asked }

/-- Number of moves after which a task is recorded at the latest. -/
def remaining (task : Task) : Nat :=
  match task.stage with
  | .waiting => 3
  | .asked => 2
  | .kept _ | .settled _ | .withdrawn => 1

/-- A task has come to nothing but what its request will come to. -/
def IsDue (fits : Nat → Settled → Prop) (outcomes : Nat → Outcome) (task : Task) : Prop :=
  match task.stage with
  | .waiting | .asked => fits task.place ⟨task.chunk, false, outcomes task.place⟩
  | .kept _ | .settled _ => True
  | .withdrawn => False

theorem remaining_pos (task : Task) : 0 < task.remaining := by
  unfold remaining
  split <;> decide

theorem remaining_le (task : Task) : task.remaining ≤ 3 := by
  unfold remaining
  split <;> decide

theorem stage_of_isWaiting {task : Task} (waits : task.isWaiting = true) :
    task.stage = .waiting := by
  unfold isWaiting at waits
  split at waits
  · assumption
  · contradiction

theorem stage_of_isAsked {task : Task} (asked : task.isAsked = true) : task.stage = .asked := by
  unfold isAsked at asked
  split at asked
  · assumption
  · contradiction

theorem isWaiting_of_isAsked {task : Task} (asked : task.isAsked = true) :
    task.isWaiting = false := by
  rw [isWaiting, stage_of_isAsked asked]

/-- A task with an answer does not wait. -/
theorem isWaiting_of_record? {task : Task} (recorded : task.record?.isSome = true) :
    task.isWaiting = false := by
  unfold isWaiting
  split
  · rename_i stage_eq
    rw [record?, stage_eq] at recorded
    contradiction
  · rfl

theorem stage_settle {task : Task} (asked : task.isAsked = true) (outcome : Outcome) :
    (task.settle outcome).stage = .settled outcome := by
  rw [settle, if_pos asked]

theorem isWaiting_settle {task : Task} (asked : task.isAsked = true) (outcome : Outcome) :
    (task.settle outcome).isWaiting = false := by
  rw [isWaiting, stage_settle asked]

namespace IsDue

variable {fits : Nat → Settled → Prop} {outcomes : Nat → Outcome} {task : Task}

theorem sent (due : task.IsDue fits outcomes) (waits : task.isWaiting = true) :
    task.sent.IsDue fits outcomes := by
  rw [IsDue, stage_of_isWaiting waits] at due
  exact due

theorem settle (asked : task.isAsked = true) (outcome : Outcome) :
    (task.settle outcome).IsDue fits outcomes := by
  rw [IsDue, stage_settle asked]
  trivial

theorem fits_of_isAsked (due : task.IsDue fits outcomes) (asked : task.isAsked = true) :
    fits task.place ⟨task.chunk, false, outcomes task.place⟩ := by
  rw [IsDue, stage_of_isAsked asked] at due
  exact due

end IsDue
end Task

namespace Pass

section

variable {Key : Type} {pass : Pass Key}

/-- Number of moves after which a pass has ended at the latest. -/
def remaining (pass : Pass Key) : Nat := (pass.tasks.map Task.remaining).sum

theorem remaining_le (pass : Pass Key) : pass.remaining ≤ 3 * pass.tasks.length := by
  unfold remaining
  induction pass.tasks with
  | nil => exact Nat.le_refl 0
  | cons task rest induction =>
      have task_le := task.remaining_le
      rw [List.map_cons, List.sum_cons, List.length_cons]
      omega

/-- Requests of the tasks that wait, in order. -/
def unsent (pass : Pass Key) : List Request :=
  (pass.tasks.filter Task.isWaiting).map fun task => pass.assignment.request task.chunk

/-- A change in the place of a task changes this task alone. -/
theorem change_eq (nodup : (pass.tasks.map Task.place).Nodup) {before after : List Task}
    {task : Task} (tasks_eq : pass.tasks = before ++ task :: after) (change : Task → Task) :
    pass.change task.place change = { pass with tasks := before ++ change task :: after } := by
  rw [tasks_eq, List.map_append, List.map_cons, List.nodup_middle, List.nodup_cons] at nodup
  obtain ⟨elsewhere, -⟩ := nodup
  have same : ∀ tasks : List Task, tasks ⊆ before ++ after →
      (tasks.map fun other => if other.place = task.place then change other else other) =
        tasks := by
    intro tasks subset
    refine (List.map_congr_left fun other mem => ?_).trans (List.map_id _)
    have differs : other.place ≠ task.place := by
      intro equal
      apply elsewhere
      rw [← List.map_append, ← equal]
      exact List.mem_map_of_mem (subset mem)
    rw [if_neg differs, id]
  rw [Pass.change, tasks_eq, List.map_append, List.map_cons, if_pos rfl,
    same before (List.subset_append_left _ _), same after (List.subset_append_right _ _)]

/-- The next request is that of the first task that waits. -/
theorem next?_cases {task : Task} (next_eq : pass.next? = some task) :
    task.isWaiting = true ∧ ∃ before after, pass.tasks = before ++ task :: after ∧
      ∀ other ∈ before, other.isWaiting = false := by
  unfold next? at next_eq
  split at next_eq
  · obtain ⟨head_eq, waits⟩ := Option.filter_eq_some_iff.1 next_eq
    obtain ⟨rest, tasks_eq⟩ := List.head?_eq_some_iff.1 head_eq
    exact ⟨waits, [], rest, tasks_eq, by simp⟩
  · split at next_eq
    · obtain ⟨waits, before, after, tasks_eq, earlier⟩ :=
        List.find?_eq_some_iff_append.1 next_eq
      exact ⟨waits, before, after, tasks_eq, fun other mem => by simpa using earlier other mem⟩
    · contradiction

/-- A request goes out for the first task that waits. -/
theorem launch_cases (nodup : (pass.tasks.map Task.place).Nodup) {task : Task} {next : Pass Key}
    (launched : pass.launch = some (task, next)) :
    task.isWaiting = true ∧ ∃ before after, pass.tasks = before ++ task :: after ∧
      (∀ other ∈ before, other.isWaiting = false) ∧
        next = { pass with tasks := before ++ task.sent :: after } := by
  obtain ⟨first, next_eq, same⟩ := Option.map_eq_some_iff.1 launched
  obtain ⟨rfl, rfl⟩ := Prod.mk.inj same
  obtain ⟨waits, before, after, tasks_eq, earlier⟩ := next?_cases next_eq
  exact ⟨waits, before, after, tasks_eq, earlier, change_eq nodup tasks_eq Task.sent⟩

/-- An answer settles the task that it comes for. -/
theorem answer_cases (nodup : (pass.tasks.map Task.place).Nodup) {task : Task}
    (mem : task ∈ pass.tasks) (outcome : Outcome) :
    ∃ before after, pass.tasks = before ++ task :: after ∧
      pass.answer task.place outcome =
        { pass with tasks := before ++ task.settle outcome :: after } := by
  obtain ⟨before, after, tasks_eq⟩ := List.append_of_mem mem
  exact ⟨before, after, tasks_eq, change_eq nodup tasks_eq _⟩

/-- A pass that goes on and can be reviewed has an answer to record. -/
theorem exists_record (goes_on : pass.verdict? = none) (reviewable : pass.isReviewable = true) :
    ∃ task rest record, pass.tasks = task :: rest ∧ task.record? = some record := by
  unfold isReviewable at reviewable
  split at reviewable
  · rename_i tasks_eq
    rw [verdict?, tasks_eq] at goes_on
    contradiction
  · rename_i task rest tasks_eq
    obtain ⟨place, chunk, stage⟩ := task
    cases stage with
    | kept answer => exact ⟨_, rest, _, tasks_eq, rfl⟩
    | settled outcome =>
        cases outcome with
        | ok answer => exact ⟨_, rest, _, tasks_eq, rfl⟩
        | error cause =>
            rw [verdict?, tasks_eq] at goes_on
            contradiction
    | waiting | asked | withdrawn => contradiction

end

variable {Key : Type} [DecidableEq Key]

/-- Moves of a pass, if the request for each place has a given outcome.  A move is marked with the
request that goes out. -/
inductive Move (keyOf : Text → String → Key) (outcomes : Nat → Outcome) :
    Pass Key → Option Request → Pass Key → Prop where
  | launch {pass next : Pass Key} {task : Task} :
      pass.launch = some (task, next) →
      Move keyOf outcomes pass (some (pass.assignment.request task.chunk)) next
  | answer {pass : Pass Key} {task : Task} :
      task ∈ pass.tasks →
      task.isAsked = true →
      Move keyOf outcomes pass none (pass.answer task.place (outcomes task.place))
  | review {pass : Pass Key} :
      pass.verdict? = none →
      pass.isReviewable = true →
      Move keyOf outcomes pass none (pass.review keyOf)

/-- Moves one after the other, with their marks. -/
inductive Course (keyOf : Text → String → Key) (outcomes : Nat → Outcome) (first : Pass Key) :
    List (Option Request) → Pass Key → Prop where
  | start : Course keyOf outcomes first [] first
  | move {marks : List (Option Request)} {mark : Option Request} {pass next : Pass Key} :
      Course keyOf outcomes first marks pass →
      Move keyOf outcomes pass mark next →
      Course keyOf outcomes first (marks ++ [mark]) next

/-- Requests that went out. -/
def requests (marks : List (Option Request)) : List Request := marks.filterMap id

variable {keyOf : Text → String → Key} {outcomes : Nat → Outcome} {assignment : Assignment}
  {chunks : List Chunk} {cache : Cache Key} {fits : Nat → Settled → Prop} {pass next : Pass Key}
  {records : List Record} {mark : Option Request}

/-- The tasks of a pass stand in different places. -/
theorem RecordedOn.nodup_places (recorded : RecordedOn keyOf assignment chunks fits pass records) :
    (pass.tasks.map Task.place).Nodup := by
  have places_eq : pass.tasks.map Task.place = List.range' records.length pass.tasks.length := by
    apply List.ext_getElem?
    intro index
    rw [List.getElem?_map]
    cases found : pass.tasks[index]? with
    | none =>
        have beyond := List.getElem?_eq_none_iff.1 found
        rw [Option.map_none, List.getElem?_eq_none (by rwa [List.length_range'])]
    | some task =>
        obtain ⟨inside, -⟩ := List.getElem?_eq_some_iff.1 found
        rw [Option.map_some, recorded.place_eq index task found, List.getElem?_range' inside,
          Nat.one_mul]
  rw [places_eq]
  exact List.nodup_range'

/-- A review removes the tasks at the front that have an answer. -/
theorem tasks_review (keyOf : Text → String → Key) (pass : Pass Key) :
    (pass.review keyOf).tasks = pass.tasks.dropWhile fun task => task.record?.isSome := by
  have dropped : ∀ (tasks : List Task) (progress : Progress Key),
      (reviewFrom keyOf pass.assignment.scope progress tasks).2 =
        tasks.dropWhile fun task => task.record?.isSome := by
    intro tasks
    induction tasks with
    | nil => exact fun _ => rfl
    | cons task rest induction =>
        intro progress
        rw [reviewFrom_cons, List.dropWhile_cons]
        cases record_eq : task.record? with
        | none => rfl
        | some record => exact induction _
  exact dropped pass.tasks pass.progress

theorem length_tasks_ofChunks (keyOf : Text → String → Key) (assignment : Assignment)
    (chunks : List Chunk) (cache : Cache Key) :
    (ofChunks keyOf assignment chunks cache).tasks.length = chunks.length := by
  rw [ofChunks, List.length_mapIdx, Check.length_jobs]

/-! ## One move -/

/-- Each move brings a pass closer to its end. -/
theorem Move.remaining_lt (nodup : (pass.tasks.map Task.place).Nodup)
    (move : Move keyOf outcomes pass mark next) : next.remaining < pass.remaining := by
  cases move with
  | launch launched =>
      obtain ⟨waits, before, after, tasks_eq, -, rfl⟩ := launch_cases nodup launched
      simp only [Pass.remaining, tasks_eq, List.map_append, List.map_cons, List.sum_append,
        List.sum_cons, Task.remaining, Task.sent, Task.stage_of_isWaiting waits]
      omega
  | @answer task mem asked =>
      obtain ⟨before, after, tasks_eq, next_eq⟩ := answer_cases nodup mem (outcomes task.place)
      rw [next_eq]
      simp only [Pass.remaining, tasks_eq, List.map_append, List.map_cons, List.sum_append,
        List.sum_cons, Task.remaining, Task.stage_settle asked, Task.stage_of_isAsked asked]
      omega
  | review goes_on reviewable =>
      obtain ⟨task, rest, record, tasks_eq, record_eq⟩ := exists_record goes_on reviewable
      have task_pos := task.remaining_pos
      rw [Pass.remaining, tasks_review, tasks_eq, List.dropWhile_cons, record_eq,
        Option.isSome_some, if_pos rfl, Pass.remaining, tasks_eq, List.map_cons, List.sum_cons]
      conv_rhs => rw [← List.takeWhile_append_dropWhile
        (p := fun task : Task => task.record?.isSome) (l := rest), List.map_append, List.sum_append]
      omega

/-- The requests that a move sends are the first of those that wait. -/
theorem Move.unsent_eq (nodup : (pass.tasks.map Task.place).Nodup)
    (move : Move keyOf outcomes pass mark next) : pass.unsent = mark.toList ++ next.unsent := by
  cases move with
  | @launch _ task launched =>
      obtain ⟨waits, before, after, tasks_eq, earlier, rfl⟩ := launch_cases nodup launched
      have none_before : before.filter Task.isWaiting = [] :=
        List.filter_eq_nil_iff.2 fun other mem => by simp [earlier other mem]
      have sent_now : task.sent.isWaiting = false := rfl
      simp [unsent, tasks_eq, none_before, waits, sent_now]
  | @answer task mem asked =>
      obtain ⟨before, after, tasks_eq, next_eq⟩ := answer_cases nodup mem (outcomes task.place)
      have not_waiting := Task.isWaiting_of_isAsked asked
      rw [next_eq]
      simp [unsent, tasks_eq, not_waiting, Task.isWaiting_settle asked]
  | review goes_on reviewable =>
      have none_first : (pass.tasks.takeWhile fun task => task.record?.isSome).filter
          Task.isWaiting = [] := by
        refine List.filter_eq_nil_iff.2 fun task mem => ?_
        have recorded : task.record?.isSome = true :=
          List.all_eq_true.1 List.all_takeWhile task mem
        rw [Task.isWaiting_of_record? recorded]
        decide
      have split_eq := List.takeWhile_append_dropWhile
        (p := fun task : Task => task.record?.isSome) (l := pass.tasks)
      rw [Option.toList_none, List.nil_append, unsent, unsent, tasks_review, ← split_eq,
        List.filter_append, none_first, List.nil_append, split_eq]
      rfl

/-- A pass that has not ended has a move left. -/
theorem exists_move (keyOf : Text → String → Key) (goes_on : pass.verdict? = none)
    (due : ∀ task ∈ pass.tasks, task.IsDue fits outcomes) :
    ∃ mark next, Move keyOf outcomes pass mark next := by
  cases tasks_eq : pass.tasks with
  | nil =>
      rw [verdict?, tasks_eq] at goes_on
      contradiction
  | cons task rest =>
      have first_mem : task ∈ pass.tasks := by simp [tasks_eq]
      cases stage_eq : task.stage with
      | kept answer =>
          refine ⟨none, _, .review goes_on ?_⟩
          simp [isReviewable, tasks_eq, Task.isReviewable, stage_eq]
      | settled outcome =>
          refine ⟨none, _, .review goes_on ?_⟩
          simp [isReviewable, tasks_eq, Task.isReviewable, stage_eq]
      | asked => exact ⟨none, _, .answer first_mem (by simp [Task.isAsked, stage_eq])⟩
      | withdrawn =>
          have given_up := due task first_mem
          rw [Task.IsDue, stage_eq] at given_up
          contradiction
      | waiting =>
          have waits : task.isWaiting = true := by simp [Task.isWaiting, stage_eq]
          -- The first task waits, so a request goes out unless too many are under way.
          by_cases free : pass.assignment.inTurn = true ∨
              pass.underWay < pass.assignment.options.concurrency
          · have next_eq : pass.next? = some task := by
              unfold next?
              split
              · simp [tasks_eq, waits]
              · rename_i side_by_side
                rw [if_pos (free.resolve_left side_by_side), tasks_eq, List.find?_cons_of_pos waits]
            obtain ⟨next, launched⟩ : ∃ next, pass.launch = some (task, next) :=
              ⟨_, by rw [launch, next_eq, Option.map_some]⟩
            exact ⟨_, next, .launch launched⟩
          · rw [not_or, Assignment.inTurn, decide_eq_true_eq] at free
            have some_asked : pass.tasks.filter Task.isAsked ≠ [] := by
              intro none_asked
              rw [underWay, none_asked, List.length_nil] at free
              omega
            obtain ⟨other, mem⟩ := List.exists_mem_of_ne_nil _ some_asked
            obtain ⟨other_mem, asked⟩ := List.mem_filter.1 mem
            exact ⟨none, _, .answer other_mem asked⟩

/-! ## Courses -/

/-- A pass that has sent some requests, and has come to nothing but what is foreseen. -/
structure OnCourse (keyOf : Text → String → Key) (assignment : Assignment) (chunks : List Chunk)
    (cache : Cache Key) (outcomes : Nat → Outcome) (sent : List Request) (pass : Pass Key) :
    Prop where
  recorded : ∃ records, RecordedOn keyOf assignment chunks
    (Check.Foresees keyOf cache chunks outcomes) pass records
  due : ∀ task ∈ pass.tasks, task.IsDue (Check.Foresees keyOf cache chunks outcomes) outcomes
  sent_eq : sent ++ pass.unsent = (Check.unanswered keyOf cache chunks).map assignment.request

namespace OnCourse

theorem start (keyOf : Text → String → Key) (assignment : Assignment) (chunks : List Chunk)
    (cache : Cache Key) (outcomes : Nat → Outcome) :
    OnCourse keyOf assignment chunks cache outcomes []
      (ofChunks keyOf assignment chunks cache) where
  recorded := by
    refine ⟨[], .start ?_⟩
    intro place job answer job_eq kept_eq
    have foreseen : Check.Foresees keyOf cache chunks outcomes place (job.foresee outcomes place) :=
      Check.foresees_of_job job_eq
    rwa [Job.foresee, kept_eq] at foreseen
  due := by
    intro task mem
    obtain ⟨place, found⟩ := List.getElem?_of_mem mem
    rw [getElem?_tasks_ofChunks] at found
    obtain ⟨⟨chunk, kept⟩, job_eq, rfl⟩ := Option.map_eq_some_iff.1 found
    cases kept with
    | some answer => trivial
    | none => exact Check.foresees_of_job job_eq
  sent_eq := by
    rw [List.nil_append, unsent, ofChunks, Check.unanswered, List.map_map]
    simp only
    -- A task of a job waits just if the job has no answer.
    generalize Check.jobs keyOf cache chunks = jobs
    induction jobs using List.reverseRecOn with
    | nil => rfl
    | append_singleton jobs job induction =>
        obtain ⟨chunk, kept⟩ := job
        rw [List.mapIdx_append, List.filter_append, List.map_append, induction, List.filter_append,
          List.map_append]
        cases kept <;> rfl

variable {sent : List Request}

theorem move (on_course : OnCourse keyOf assignment chunks cache outcomes sent pass)
    (move : Move keyOf outcomes pass mark next) :
    OnCourse keyOf assignment chunks cache outcomes (sent ++ mark.toList) next := by
  obtain ⟨records, recorded⟩ := on_course.recorded
  have nodup := recorded.nodup_places
  have due := on_course.due
  have sent_eq : sent ++ mark.toList ++ next.unsent =
      (Check.unanswered keyOf cache chunks).map assignment.request := by
    rw [List.append_assoc, ← move.unsent_eq nodup, on_course.sent_eq]
  cases move with
  | launch launched =>
      refine ⟨⟨records, recorded.launch launched⟩, ?_, sent_eq⟩
      obtain ⟨waits, before, after, tasks_eq, -, rfl⟩ := launch_cases nodup launched
      rw [tasks_eq, List.forall_mem_append, List.forall_mem_cons] at due
      obtain ⟨before_due, task_due, after_due⟩ := due
      rw [List.forall_mem_append, List.forall_mem_cons]
      exact ⟨before_due, task_due.sent waits, after_due⟩
  | @answer task mem asked =>
      refine ⟨⟨records, recorded.answer ?_⟩, ?_, sent_eq⟩
      · intro other other_mem at_place other_asked
        rw [← at_place]
        exact (due other other_mem).fits_of_isAsked other_asked
      · obtain ⟨before, after, tasks_eq, next_eq⟩ := answer_cases nodup mem (outcomes task.place)
        rw [tasks_eq, List.forall_mem_append, List.forall_mem_cons] at due
        obtain ⟨before_due, -, after_due⟩ := due
        rw [next_eq, List.forall_mem_append, List.forall_mem_cons]
        exact ⟨before_due, .settle asked _, after_due⟩
  | review goes_on reviewable =>
      obtain ⟨more, reviewed⟩ := recorded.review
      refine ⟨⟨records ++ more, reviewed⟩, ?_, sent_eq⟩
      intro task mem
      rw [tasks_review] at mem
      exact due task ((List.dropWhile_sublist _).subset mem)

/-- What was recorded is the first of what is foreseen. -/
theorem exists_records (on_course : OnCourse keyOf assignment chunks cache outcomes sent pass) :
    ∃ records rest, RecordedOn keyOf assignment chunks
        (Check.Foresees keyOf cache chunks outcomes) pass records ∧
      Check.foreseen keyOf cache chunks outcomes = records.map Record.settled ++ rest := by
  obtain ⟨records, recorded⟩ := on_course.recorded
  have recorded_first : records.map Record.settled <+:
      Check.foreseen keyOf cache chunks outcomes := by
    rw [List.prefix_iff_getElem?]
    intro index inside
    rw [List.length_map] at inside
    rw [List.getElem_map]
    exact recorded.records_fit index _ (List.getElem?_eq_getElem inside)
  obtain ⟨rest, foreseen_eq⟩ := recorded_first
  exact ⟨records, rest, recorded, foreseen_eq.symm⟩

/-- A pass that succeeds has recorded all that is foreseen. -/
theorem records_of_succeeds
    (on_course : OnCourse keyOf assignment chunks cache outcomes sent pass)
    {progress : Progress Key} (succeeds : pass.verdict? = some (.ok progress)) :
    ∃ records, Check.foreseen keyOf cache chunks outcomes = records.map Record.settled ∧
      progress = Progress.start.recordAll keyOf assignment.scope records := by
  obtain ⟨records, rest, recorded, foreseen_eq⟩ := on_course.exists_records
  obtain ⟨chunks_eq, progress_eq⟩ := recorded.of_succeeds succeeds
  have length_eq := Check.length_foreseen keyOf cache chunks outcomes
  rw [foreseen_eq, List.length_append, List.length_map, ← chunks_eq, List.length_map] at length_eq
  obtain rfl : rest = [] := List.length_eq_zero_iff.1 (by omega)
  rw [List.append_nil] at foreseen_eq
  exact ⟨records, foreseen_eq, progress_eq⟩

/-- A pass that fails has recorded what is foreseen before the first failure. -/
theorem records_of_fails (on_course : OnCourse keyOf assignment chunks cache outcomes sent pass)
    {abortion : Abortion} (fails : pass.verdict? = some (.error abortion)) :
    ∃ records chunk rest,
      Check.foreseen keyOf cache chunks outcomes =
          records.map Record.settled ++ ⟨chunk, false, .error abortion.cause⟩ :: rest ∧
        abortion.diagnostics = (Progress.start.recordAll keyOf assignment.scope records :
          Progress Key).findings.diagnostics := by
  obtain ⟨records, rest, recorded, foreseen_eq⟩ := on_course.exists_records
  obtain ⟨chunk, later, -, failed, diagnostics_eq⟩ := recorded.of_fails fails
  rw [Check.Foresees, foreseen_eq, List.getElem?_append_right (by simp), List.length_map,
    Nat.sub_self] at failed
  obtain ⟨more, rfl⟩ := List.head?_eq_some_iff.1 (List.head?_eq_getElem? ▸ failed)
  exact ⟨records, chunk, more, foreseen_eq, diagnostics_eq⟩

/-- A pass ends as is foreseen of its chunks. -/
theorem verdict_eq (on_course : OnCourse keyOf assignment chunks cache outcomes sent pass)
    {verdict : Except Abortion (Progress Key)} (ends : pass.verdict? = some verdict) :
    verdict = Progress.start.settle keyOf assignment.scope
      (Check.foreseen keyOf cache chunks outcomes) := by
  cases verdict with
  | ok progress =>
      obtain ⟨records, foreseen_eq, rfl⟩ := on_course.records_of_succeeds ends
      rw [foreseen_eq, Progress.settle_map_settled]
  | error abortion =>
      obtain ⟨records, chunk, rest, foreseen_eq, diagnostics_eq⟩ := on_course.records_of_fails ends
      rw [foreseen_eq, Progress.settle_records, Progress.settle, ← diagnostics_eq]

/-- A pass that succeeds has sent a request for each chunk without a kept answer. -/
theorem sent_eq_of_succeeds (on_course : OnCourse keyOf assignment chunks cache outcomes sent pass)
    {progress : Progress Key} (succeeds : pass.verdict? = some (.ok progress)) :
    sent = (Check.unanswered keyOf cache chunks).map assignment.request := by
  have tasks_eq : pass.tasks = [] := by
    unfold verdict? at succeeds
    split at succeeds
    · assumption
    · simp at succeeds
    · simp at succeeds
  rw [← on_course.sent_eq, unsent, tasks_eq, List.filter_nil, List.map_nil, List.append_nil]

end OnCourse

namespace Course

variable {marks : List (Option Request)}

theorem onCourse
    (course : Course keyOf outcomes (ofChunks keyOf assignment chunks cache) marks pass) :
    OnCourse keyOf assignment chunks cache outcomes (requests marks) pass := by
  induction course with
  | start => exact .start keyOf assignment chunks cache outcomes
  | @move marks mark pass next course move induction =>
      have requests_eq : requests (marks ++ [mark]) = requests marks ++ mark.toList := by
        rw [requests, List.filterMap_append, requests]
        cases mark <;> rfl
      rw [requests_eq]
      exact induction.move move

/-- A course has at most three moves for each chunk. -/
theorem length_le
    (course : Course keyOf outcomes (ofChunks keyOf assignment chunks cache) marks pass) :
    marks.length ≤ 3 * chunks.length := by
  have spent : marks.length + pass.remaining ≤
      (ofChunks keyOf assignment chunks cache).remaining := by
    induction course with
    | start => simp
    | move course move induction =>
        obtain ⟨records, recorded⟩ := course.onCourse.recorded
        have closer := move.remaining_lt recorded.nodup_places
        rw [List.length_append, List.length_singleton]
        omega
  have at_most := (ofChunks keyOf assignment chunks cache).remaining_le
  rw [length_tasks_ofChunks] at at_most
  omega

end Course

end Pass
end ProseCheck
