import ProseCheck.Proofs.Check.Recorded
import ProseCheck.Proofs.World

/-!
# Checking again

A check that succeeds leaves a cache which holds an answer for each of its chunks.  Checked again
with that cache, the same document needs no request, and the second check finds and leaves what the
first one did, whatever order the answers of the first one came in.
-/

namespace ProseCheck
namespace Check

variable {Key State : Type} [DecidableEq Key] {keyOf : Text → String → Key}
  {assignment : Assignment} {records : List Record}

/-- A check with the cache of some records records the same answers again. -/
theorem run_ofRecords (server : Server State) (state : State)
    (chunks_eq : records.map Record.chunk = assignment.chunks) :
    run keyOf server state assignment (.ofRecords keyOf records) =
      (.ok
        (report assignment.chunks.length
            (Progress.start.recordAll keyOf assignment.scope (records.map Record.again) :
              Progress Key),
          .ofRecords keyOf records), state) := by
  rw [run, ← chunks_eq, jobs_ofRecords, ask_jobs]
  simp only [Progress.settle_map_settled]
  rw [Progress.recordAll_again]

end Check

namespace Pass

section

variable {Key : Type} {pass : Pass Key}

/-- A pass none of whose tasks needs a request. -/
def IsIdle (pass : Pass Key) : Prop := ∀ task ∈ pass.tasks, ∃ answer, task.stage = .kept answer

namespace IsIdle

theorem launch (idle : pass.IsIdle) : pass.launch = none := by
  have none_waits : ∀ task ∈ pass.tasks, task.isWaiting = false := by
    intro task mem
    obtain ⟨answer, stage_eq⟩ := idle task mem
    rw [Task.isWaiting, stage_eq]
  have next_eq : pass.next? = none := by
    unfold next?
    split
    · refine Option.filter_eq_none_iff.2 fun task head_eq => ?_
      rw [none_waits task (List.mem_of_mem_head? head_eq)]
      decide
    · split
      · exact List.find?_eq_none.2 fun task mem => by simp [none_waits task mem]
      · rfl
  rw [Pass.launch, next_eq]
  rfl

theorem not_isAsked (idle : pass.IsIdle) {task : Task} (mem : task ∈ pass.tasks) :
    task.isAsked = false := by
  obtain ⟨answer, stage_eq⟩ := idle task mem
  rw [Task.isAsked, stage_eq]

/-- What comes without a request is left aside. -/
theorem answer (idle : pass.IsIdle) (place : Nat) (outcome : Outcome) :
    pass.answer place outcome = pass := by
  have same : (pass.tasks.map fun task =>
      if task.place = place then task.settle outcome else task) = pass.tasks := by
    refine (List.map_congr_left fun task mem => ?_).trans (List.map_id _)
    rw [Task.settle, idle.not_isAsked mem]
    simp
  rw [Pass.answer, change, same]

theorem withdraw (idle : pass.IsIdle) : pass.withdraw = pass := by
  unfold Pass.withdraw
  split
  · rfl
  · rename_i task rest tasks_eq
    have no_request : task.isAsked = false := idle.not_isAsked (by simp [tasks_eq])
    rw [Task.withdraw, no_request]
    simp [← tasks_eq]

end IsIdle

end

variable {Key : Type} [DecidableEq Key] {keyOf : Text → String → Key} {assignment : Assignment}
  {cache : Cache Key} {pass : Pass Key} {records : List Record}

/-- Passes that come of an assignment and a cache, whatever is done in which order. -/
inductive Reached (keyOf : Text → String → Key) (assignment : Assignment) (cache : Cache Key) :
    Pass Key → Prop where
  | start : Reached keyOf assignment cache (.start keyOf assignment cache)
  | launch {pass next : Pass Key} {task : Task} :
      Reached keyOf assignment cache pass →
      pass.launch = some (task, next) →
      Reached keyOf assignment cache next
  | answer {pass : Pass Key} (place : Nat) (outcome : Outcome) :
      Reached keyOf assignment cache pass →
      Reached keyOf assignment cache (pass.answer place outcome)
  | withdraw {pass : Pass Key} :
      Reached keyOf assignment cache pass →
      Reached keyOf assignment cache pass.withdraw
  | review {pass : Pass Key} :
      Reached keyOf assignment cache pass →
      Reached keyOf assignment cache (pass.review keyOf)

/-- A pass has recorded answers on the first of its chunks, whatever was done. -/
theorem Reached.exists_records (reached : Reached keyOf assignment cache pass) :
    ∃ records, Recorded keyOf assignment (fun _ _ => True) pass records := by
  induction reached with
  | start => exact ⟨[], .start fun _ _ _ _ _ => trivial⟩
  | launch reached launched induction =>
      obtain ⟨records, recorded⟩ := induction
      exact ⟨records, recorded.launch launched⟩
  | answer place outcome reached induction =>
      obtain ⟨records, recorded⟩ := induction
      exact ⟨records, recorded.answer fun _ _ _ _ => trivial⟩
  | withdraw reached induction =>
      obtain ⟨records, recorded⟩ := induction
      exact ⟨records, recorded.withdraw⟩
  | review reached induction =>
      obtain ⟨records, recorded⟩ := induction
      obtain ⟨more, reviewed⟩ := recorded.review
      exact ⟨records ++ more, reviewed⟩

/-- A review of a pass none of whose tasks needs a request records them all. -/
theorem reviewFrom_kept (scope : Scope) (progress : Progress Key) (records : List Record)
    {tasks : List Task} (tasks_eq : tasks.map Task.record? = (records.map Record.again).map some) :
    reviewFrom keyOf scope progress tasks =
      (progress.recordAll keyOf scope (records.map Record.again), []) := by
  induction tasks generalizing progress records with
  | nil =>
      obtain rfl : records = [] := by simpa using tasks_eq
      rfl
  | cons task rest induction =>
      cases records with
      | nil => simp at tasks_eq
      | cons record records =>
          rw [List.map_cons, List.map_cons, List.map_cons] at tasks_eq
          obtain ⟨task_eq, rest_eq⟩ := List.cons.inj tasks_eq
          rw [reviewFrom_cons, task_eq]
          exact induction _ records rest_eq

/-- The pass that has recorded the answers of some records again. -/
def repeated (keyOf : Text → String → Key) (assignment : Assignment) (records : List Record) :
    Pass Key :=
  ⟨assignment, assignment.chunks.length,
    Progress.start.recordAll keyOf assignment.scope (records.map Record.again), []⟩

theorem isIdle_repeated : (repeated keyOf assignment records).IsIdle := by
  intro task mem
  contradiction

section

variable (chunks_eq : records.map Record.chunk = assignment.chunks)

include chunks_eq

/-- A pass that starts from the cache of some records has a task for the job of each. -/
theorem getElem?_tasks_ofRecords (index : Nat) :
    (start keyOf assignment (.ofRecords keyOf records)).tasks[index]? =
      records[index]?.map fun record => Task.ofJob index record.job := by
  rw [start_eq_ofChunks, getElem?_tasks_ofChunks, ← chunks_eq, Check.jobs_ofRecords,
    List.getElem?_map, Option.map_map]
  rfl

theorem isIdle_start : (start keyOf assignment (.ofRecords keyOf records)).IsIdle := by
  intro task mem
  obtain ⟨index, found⟩ := List.getElem?_of_mem mem
  rw [getElem?_tasks_ofRecords chunks_eq] at found
  obtain ⟨record, -, rfl⟩ := Option.map_eq_some_iff.1 found
  exact ⟨record.answer, rfl⟩

/-- It keeps the answers of all of them. -/
theorem map_record?_start :
    (start keyOf assignment (.ofRecords keyOf records)).tasks.map Task.record? =
      (records.map Record.again).map some := by
  apply List.ext_getElem?
  intro index
  rw [List.getElem?_map, getElem?_tasks_ofRecords chunks_eq, List.getElem?_map, List.getElem?_map]
  cases records[index]? <;> rfl

theorem review_start :
    (start keyOf assignment (.ofRecords keyOf records)).review keyOf =
      repeated keyOf assignment records := by
  have reviewed : reviewFrom keyOf assignment.scope Progress.start
      (start keyOf assignment (.ofRecords keyOf records)).tasks =
        (Progress.start.recordAll keyOf assignment.scope (records.map Record.again), []) :=
    reviewFrom_kept assignment.scope Progress.start records (map_record?_start chunks_eq)
  rw [review]
  simp only [start] at reviewed ⊢
  rw [reviewed, repeated]

/-- A pass that starts from the cache of some records only records them again. -/
theorem start_or_repeated_of_reached
    (reached : Reached keyOf assignment (.ofRecords keyOf records) pass) :
    pass = start keyOf assignment (.ofRecords keyOf records) ∨
      pass = repeated keyOf assignment records := by
  have idle : (start keyOf assignment (.ofRecords keyOf records)).IsIdle := isIdle_start chunks_eq
  have done : (repeated keyOf assignment records).IsIdle := isIdle_repeated
  -- None of the tasks needs a request, so nothing but a review changes the pass.
  induction reached with
  | start => exact .inl rfl
  | launch reached launched induction =>
      rcases induction with rfl | rfl
      · rw [idle.launch] at launched
        contradiction
      · rw [done.launch] at launched
        contradiction
  | answer place outcome reached induction =>
      rcases induction with rfl | rfl
      · exact .inl (idle.answer place outcome)
      · exact .inr (done.answer place outcome)
  | withdraw reached induction =>
      rcases induction with rfl | rfl
      · exact .inl idle.withdraw
      · exact .inr done.withdraw
  | review reached induction =>
      rcases induction with rfl | rfl
      · exact .inr (review_start chunks_eq)
      · exact .inr rfl

end

end Pass

/-- The report of a check that finds the same and needs no request. -/
def Report.again (report : Report) : Report := { report with checked := 0, cached := report.chunks }

namespace Check

variable {Key : Type} [DecidableEq Key]

/-- What is recorded again is reported again. -/
theorem report_again (keyOf : Text → String → Key) (assignment : Assignment) {records : List Record}
    (chunks_eq : records.map Record.chunk = assignment.chunks) :
    report assignment.chunks.length
        (Progress.start.recordAll keyOf assignment.scope (records.map Record.again) :
          Progress Key) =
      (report assignment.chunks.length
        (Progress.start.recordAll keyOf assignment.scope records : Progress Key)).again := by
  rw [← chunks_eq, List.length_map, Progress.recordAll_again]
  rfl

/-- Checking again with the cache of a check that succeeded needs no request: any other server is in
the state that it was in and has got no request, the report is the same but for the numbers of
answers that came from the server and from the cache, and so is the cache.  Nor does a pass that
starts from the cache of a pass that succeeded send a request, whatever is done with it and in
whichever order the answers of the first one came in; and its review ends it with the same report
and the same cache. -/
theorem run_again (keyOf : Text → String → Key) (assignment : Assignment) :
    (∀ (State : Type) (server : Server State) (state after : State) (cache next : Cache Key)
        (report : Report),
      run keyOf server state assignment cache = (.ok (report, next), after) →
        report.chunks = assignment.chunks.length ∧
          ∀ (Other : Type) (other : Server Other) (later : Other) (log : List Request),
            run keyOf other.logged (later, log) assignment next =
              (.ok (report.again, next), (later, log))) ∧
    ∀ (cache : Cache Key) (pass : Pass Key) (progress : Progress Key),
      Pass.Reached keyOf assignment cache pass → pass.verdict? = some (.ok progress) →
        ∀ second, Pass.Reached keyOf assignment progress.cache second →
          second.launch = none ∧
            ∃ final, (second.review keyOf).verdict? = some (.ok final) ∧
              final.cache = progress.cache ∧
              report second.size final = (report pass.size progress).again := by
  constructor
  · intro State server state after cache next report succeeds
    obtain ⟨records, -, chunks_eq, rfl, rfl⟩ := exists_records_of_run succeeds
    refine ⟨rfl, ?_⟩
    intro Other other later log
    rw [run_ofRecords _ _ chunks_eq, report_again keyOf assignment chunks_eq]
  · intro cache pass progress reached succeeds second second_reached
    obtain ⟨records, recorded⟩ := reached.exists_records
    obtain ⟨chunks_eq, rfl⟩ := recorded.of_succeeds succeeds
    rw [Progress.cache_recordAll_start] at second_reached ⊢
    have final_cache : (Progress.start.recordAll keyOf assignment.scope
        (records.map Record.again) : Progress Key).cache = .ofRecords keyOf records := by
      rw [Progress.recordAll_again]
    have final_report := report_again keyOf assignment chunks_eq
    rcases Pass.start_or_repeated_of_reached chunks_eq second_reached with rfl | rfl
    · refine ⟨(Pass.isIdle_start chunks_eq).launch, _, ?_, final_cache, ?_⟩
      · rw [Pass.review_start chunks_eq]
        rfl
      · rw [recorded.size_eq]
        exact final_report
    · refine ⟨?_, _, rfl, final_cache, ?_⟩
      · exact Pass.isIdle_repeated.launch
      · rw [recorded.size_eq]
        exact final_report

/-- Two equal paragraphs. -/
def twins : Assignment where
  world :=
    .ofSource (.ofTree "main"
      (.inner .markup
        [.leaf .text ['S', 'o'], .leaf .parbreak ['\n', '\n'], .leaf .text ['S', 'o'],
          .leaf .parbreak ['\n', '\n']]))
  options := { Options.standard with chunkSize := 1, concurrency := 2 }
  allFiles := false

/-- What a server says first and later of the same text. -/
def remark (calls : Nat) : Answer :=
  [⟨0, 2, if calls = 0 then "first" else "later", "", "", []⟩]

theorem run_again_twins :
    (∃ report next,
      run Prod.mk (fun (calls : Nat) _ => (.ok (remark calls), calls + 1)) 0 twins .empty =
          (.ok (report, next), 2) ∧
        report.diagnostics.map Diagnostic.message = ["first", "later"] ∧ report.checked = 2 ∧
          run Prod.mk (Server.ofFunction fun _ => .error .requestFailed).logged ((), []) twins
              next =
            (.ok (report.again, next), ((), []))) ∧
      ∃ pass progress, Pass.Reached Prod.mk twins .empty pass ∧
        pass.verdict? = some (.ok progress) ∧
          progress.findings.diagnostics.map Diagnostic.message = ["first", "later"] ∧
            (Pass.start Prod.mk twins progress.cache).launch = none := by
  obtain ⟨checked_again, passed_again⟩ := run_again Prod.mk twins
  constructor
  · obtain ⟨report, next, succeeds, messages, checked⟩ : ∃ report next,
        run Prod.mk (fun (calls : Nat) _ => (.ok (remark calls), calls + 1)) 0 twins .empty =
            (.ok (report, next), 2) ∧
          report.diagnostics.map Diagnostic.message = ["first", "later"] ∧ report.checked = 2 :=
      ⟨_, _, rfl, by decide +kernel, rfl⟩
    obtain ⟨-, again⟩ := checked_again _ _ _ _ _ _ _ succeeds
    exact ⟨report, next, succeeds, messages, checked, again _ _ _ _⟩
  · obtain ⟨pass, progress, reached, succeeds, messages⟩ : ∃ pass progress,
        Pass.Reached Prod.mk twins .empty pass ∧ pass.verdict? = some (.ok progress) ∧
          progress.findings.diagnostics.map Diagnostic.message = ["first", "later"] :=
      ⟨_, _, .review (.answer 0 (.ok (remark 0)) (.answer 1 (.ok (remark 1))
        (.launch (.launch .start rfl) rfl))), rfl, by decide +kernel⟩
    obtain ⟨nothing_sent, -⟩ := passed_again _ pass progress reached succeeds _ .start
    exact ⟨pass, progress, reached, succeeds, messages, nothing_sent⟩

end Check
end ProseCheck
