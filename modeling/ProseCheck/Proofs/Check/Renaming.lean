import Mathlib.Logic.Equiv.Basic
import ProseCheck.Document
import ProseCheck.Proofs.Check.FanOut
import ProseCheck.Proofs.Location.Renaming
import ProseCheck.Proofs.Markup.Renaming

/-!
# Checks of renamed files

A check sends the same requests whatever the files are called, and ends in the same way but for the
names in its locations, be it that its requests go out in turn or side by side.  There is one
exception: where only the main file is checked, a file with the empty name is not converted at all.
-/

namespace ProseCheck

/-- The abortion when files have other names. -/
def Abortion.renamed (names : FileId → FileId) (abortion : Abortion) : Abortion :=
  ⟨abortion.diagnostics.map (Diagnostic.renamed names), abortion.cause⟩

/-- The report when files have other names. -/
def Report.renamed (names : FileId → FileId) (report : Report) : Report :=
  { report with diagnostics := report.diagnostics.map (Diagnostic.renamed names) }

/-- What is recorded when files have other names. -/
def Progress.renamed {Key : Type} (names : FileId → FileId) (progress : Progress Key) :
    Progress Key :=
  { progress with findings := progress.findings.renamed names }

namespace Check

/-- An end when files have other names, given what that makes of a success. -/
def renamedEnd {Value : Type} (names : FileId → FileId) (change : Value → Value) :
    Except Abortion Value → Except Abortion Value
  | .ok value => .ok (change value)
  | .error abortion => .error (abortion.renamed names)

/-- The end of a check when files have other names. -/
abbrev renamedOutcome {Key : Type} (names : FileId → FileId) :
    Except Abortion (Report × Cache Key) → Except Abortion (Report × Cache Key) :=
  renamedEnd names fun (report, next) => (report.renamed names, next)

/-- The end of a pass when files have other names. -/
abbrev renamedVerdict {Key : Type} (names : FileId → FileId) :
    Except Abortion (Progress Key) → Except Abortion (Progress Key) :=
  renamedEnd names (Progress.renamed names)

end Check

section

variable (names : Equiv.Perm FileId)

/-- The job when files have other names. -/
def Job.renamed (job : Job) : Job := { job with chunk := job.chunk.renamed names }

/-- What came of a chunk when files have other names. -/
def Settled.renamed (settled : Settled) : Settled :=
  { settled with chunk := settled.chunk.renamed names }

namespace Assignment

/-- The assignment when files have other names. -/
def renamed (assignment : Assignment) : Assignment :=
  { assignment with world := assignment.world.renamed names }

theorem scope_renamed (assignment : Assignment) :
    (assignment.renamed names).scope = assignment.scope.renamed names := by
  obtain ⟨world, options, allFiles⟩ := assignment
  cases allFiles <;> rfl

/-- Names of files are no part of a request. -/
theorem request_renamed (assignment : Assignment) (chunk : Chunk) :
    (assignment.renamed names).request (chunk.renamed names) = assignment.request chunk := rfl

end Assignment

namespace Progress

variable {Key : Type} [DecidableEq Key] (keyOf : Text → String → Key) (scope : Scope)

theorem record_renamed (progress : Progress Key) (chunk : Chunk) (kept : Bool) (answer : Answer) :
    (progress.renamed names).record keyOf (scope.renamed names) (chunk.renamed names) kept answer =
      (progress.record keyOf scope chunk kept answer).renamed names := by
  have found := progress.findings.add_renamed names scope chunk.map answer
  simp only [renamed, record, Chunk.renamed, found]
  rfl

theorem settle_renamed (progress : Progress Key) (settled : List Settled) :
    (progress.renamed names).settle keyOf (scope.renamed names)
        (settled.map (Settled.renamed names)) =
      Check.renamedVerdict names (progress.settle keyOf scope settled) := by
  induction settled generalizing progress with
  | nil => rfl
  | cons first rest induction =>
      obtain ⟨chunk, kept, outcome⟩ := first
      rw [List.map_cons, Settled.renamed]
      cases outcome with
      | error cause => rfl
      | ok answer => rw [settle, settle, record_renamed, induction]

end Progress

namespace Check

variable {Key State : Type} [DecidableEq Key] (keyOf : Text → String → Key)

theorem jobs_renamed (cache : Cache Key) (chunks : List Chunk) :
    jobs keyOf cache (chunks.map (Chunk.renamed names)) =
      (jobs keyOf cache chunks).map (Job.renamed names) := by
  rw [jobs, jobs, List.map_map, List.zipWith_map_left, List.map_zipWith]
  rfl

theorem ask_renamed (server : Server State) (assignment : Assignment) (inTurn : Bool)
    (state : State) (jobs : List Job) :
    ask server (assignment.renamed names).request inTurn state (jobs.map (Job.renamed names)) =
      ((ask server assignment.request inTurn state jobs).1.map (Settled.renamed names),
        (ask server assignment.request inTurn state jobs).2) := by
  induction jobs generalizing state with
  | nil => rfl
  | cons first rest induction =>
      obtain ⟨chunk, kept⟩ := first
      simp only [List.map_cons, Job.renamed]
      cases kept with
      | some answer =>
          rw [ask, ask, induction]
          rfl
      | none =>
          rw [ask, ask, Assignment.request_renamed]
          obtain ⟨outcome, next⟩ := server state (assignment.request chunk)
          cases outcome with
          | ok answer =>
              simp only [induction]
              rfl
          | error cause =>
              cases inTurn with
              | true => rfl
              | false =>
                  simp only [induction]
                  rfl

/-- What a check comes to under other names follows from what it records. -/
theorem renamedOutcome_run (names : FileId → FileId) (server : Server State) (state : State)
    (assignment : Assignment) (cache : Cache Key) :
    renamedOutcome names (run keyOf server state assignment cache).1 =
      (renamedVerdict names (Progress.start.settle keyOf assignment.scope
        (ask server assignment.request assignment.inTurn state
          (jobs keyOf cache assignment.chunks)).1)).map fun progress =>
        (report assignment.chunks.length progress, progress.cache) := by
  rw [run_fst]
  cases Progress.start.settle keyOf assignment.scope _ <;> rfl

/-- A check of renamed files leaves the server in the same state, and has the renamed end. -/
theorem run_renamed {assignment : Assignment}
    (chunks_eq : (assignment.renamed names).chunks = assignment.chunks.map (Chunk.renamed names))
    (server : Server State) (state : State) (cache : Cache Key) :
    run keyOf server state (assignment.renamed names) cache =
      (renamedOutcome names (run keyOf server state assignment cache).1,
        (run keyOf server state assignment cache).2) := by
  have same_turn : (assignment.renamed names).inTurn = assignment.inTurn := rfl
  have settled_eq := Progress.settle_renamed names keyOf assignment.scope .start
    (ask server assignment.request assignment.inTurn state
      (jobs keyOf cache assignment.chunks)).1
  have start_eq : (Progress.start : Progress Key).renamed names = .start := rfl
  apply Prod.ext
  · rw [renamedOutcome_run, run_fst, chunks_eq, jobs_renamed, same_turn, ask_renamed,
      Assignment.scope_renamed, List.length_map]
    rw [start_eq] at settled_eq
    rw [settled_eq]
  · rw [run_snd, run_snd, chunks_eq, jobs_renamed, same_turn, ask_renamed]

end Check

/-! ## Passes -/

/-- The task when files have other names. -/
def Task.renamed (task : Task) : Task := { task with chunk := task.chunk.renamed names }

theorem Task.settle_renamed (task : Task) (outcome : Outcome) :
    (task.renamed names).settle outcome = (task.settle outcome).renamed names := by
  have same_asked : (task.renamed names).isAsked = task.isAsked := rfl
  rw [settle, settle, same_asked]
  split <;> rfl

namespace Pass

variable {Key : Type}

/-- The pass when files have other names. -/
def renamed (pass : Pass Key) : Pass Key :=
  ⟨pass.assignment.renamed names, pass.size, pass.progress.renamed names,
    pass.tasks.map (Task.renamed names)⟩

theorem verdict?_renamed (pass : Pass Key) :
    (pass.renamed names).verdict? = pass.verdict?.map (Check.renamedVerdict names) := by
  obtain ⟨assignment, size, progress, tasks⟩ := pass
  cases tasks with
  | nil => rfl
  | cons task rest =>
      obtain ⟨place, chunk, stage⟩ := task
      cases stage with
      | settled outcome => cases outcome <;> rfl
      | kept answer | waiting | asked | withdrawn => rfl

theorem isReviewable_renamed (pass : Pass Key) :
    (pass.renamed names).isReviewable = pass.isReviewable := by
  obtain ⟨assignment, size, progress, tasks⟩ := pass
  cases tasks <;> rfl

theorem next?_renamed (pass : Pass Key) :
    (pass.renamed names).next? = pass.next?.map (Task.renamed names) := by
  have same_turn : (pass.renamed names).assignment.inTurn = pass.assignment.inTurn := rfl
  have same_limit : (pass.renamed names).assignment.options = pass.assignment.options := rfl
  have tasks_eq : (pass.renamed names).tasks = pass.tasks.map (Task.renamed names) := rfl
  have waits : Task.isWaiting ∘ Task.renamed names = Task.isWaiting := rfl
  have asked : Task.isAsked ∘ Task.renamed names = Task.isAsked := rfl
  rw [next?, next?, underWay, underWay, same_turn, same_limit, tasks_eq, List.head?_map,
    List.filter_map, List.find?_map, List.length_map, waits, asked]
  split
  · cases pass.tasks.head? with
    | none => rfl
    | some task =>
        rw [Option.map_some, Option.filter_some, Option.filter_some]
        have same_wait : (task.renamed names).isWaiting = task.isWaiting := rfl
        rw [same_wait]
        split <;> rfl
  · split <;> rfl

theorem change_renamed (pass : Pass Key) (place : Nat) (change : Task → Task)
    (commutes : ∀ task, change (task.renamed names) = (change task).renamed names) :
    (pass.renamed names).change place change = (pass.change place change).renamed names := by
  simp only [Pass.change, renamed, List.map_map]
  congr 1
  refine List.map_congr_left fun task _ => ?_
  have same_place : (task.renamed names).place = task.place := rfl
  simp only [Function.comp_apply, same_place, commutes]
  split <;> rfl

variable [DecidableEq Key] (keyOf : Text → String → Key)

theorem reviewFrom_renamed (scope : Scope) (progress : Progress Key) (tasks : List Task) :
    reviewFrom keyOf (scope.renamed names) (progress.renamed names)
        (tasks.map (Task.renamed names)) =
      ((reviewFrom keyOf scope progress tasks).1.renamed names,
        (reviewFrom keyOf scope progress tasks).2.map (Task.renamed names)) := by
  induction tasks generalizing progress with
  | nil => rfl
  | cons task rest induction =>
      obtain ⟨place, chunk, stage⟩ := task
      cases stage with
      | kept answer => simp [reviewFrom, Task.renamed, Progress.record_renamed, induction]
      | settled outcome =>
          cases outcome with
          | ok answer => simp [reviewFrom, Task.renamed, Progress.record_renamed, induction]
          | error cause => rfl
      | waiting | asked | withdrawn => rfl

theorem review_renamed (pass : Pass Key) :
    (pass.renamed names).review keyOf = (pass.review keyOf).renamed names := by
  have reviewed := reviewFrom_renamed names keyOf pass.assignment.scope pass.progress pass.tasks
  rw [← Assignment.scope_renamed] at reviewed
  simp only [review, renamed, reviewed]

theorem start_renamed {assignment : Assignment}
    (chunks_eq : (assignment.renamed names).chunks = assignment.chunks.map (Chunk.renamed names))
    (cache : Cache Key) :
    start keyOf (assignment.renamed names) cache =
      (start keyOf assignment cache).renamed names := by
  have tasks_eq (jobs : List Job) : (jobs.map (Job.renamed names)).mapIdx Task.ofJob =
      (jobs.mapIdx Task.ofJob).map (Task.renamed names) := by
    apply List.ext_getElem?
    intro place
    rw [List.getElem?_mapIdx, List.getElem?_map, List.getElem?_map, List.getElem?_mapIdx,
      Option.map_map, Option.map_map]
    rfl
  rw [start, start, renamed, chunks_eq, List.length_map, Check.jobs_renamed, tasks_eq]
  rfl

variable {keyOf}

/-- A pass over renamed files has the same moves. -/
theorem Move.renamed {outcomes : Nat → Outcome} {pass next : Pass Key} {mark : Option Request}
    (move : Move keyOf outcomes pass mark next) :
    Move keyOf outcomes (pass.renamed names) mark (next.renamed names) := by
  cases move with
  | @launch _ task launched =>
      obtain ⟨first, next_eq, same⟩ := Option.map_eq_some_iff.1 launched
      obtain ⟨rfl, rfl⟩ := Prod.mk.inj same
      have sent : (pass.renamed names).launch = some (first.renamed names,
          (pass.renamed names).change first.place Task.sent) := by
        rw [Pass.launch, next?_renamed, next_eq]
        rfl
      rw [change_renamed names pass first.place Task.sent fun _ => rfl] at sent
      have move : Move keyOf outcomes (pass.renamed names)
          (some ((pass.renamed names).assignment.request (first.renamed names).chunk)) _ :=
        .launch sent
      exact move
  | @answer task mem asked =>
      have answered : (pass.renamed names).answer task.place (outcomes task.place) =
          (pass.answer task.place (outcomes task.place)).renamed names :=
        change_renamed names pass task.place _ fun task => task.settle_renamed names _
      have renamed_mem : task.renamed names ∈ (pass.renamed names).tasks :=
        List.mem_map_of_mem mem
      have move : Move keyOf outcomes (pass.renamed names) none
          ((pass.renamed names).answer (task.renamed names).place
            (outcomes (task.renamed names).place)) :=
        .answer renamed_mem asked
      rw [← answered]
      exact move
  | review goes_on reviewable =>
      rw [← review_renamed]
      refine .review ?_ ?_
      · rw [verdict?_renamed, goes_on, Option.map_none]
      · rw [isReviewable_renamed, reviewable]

theorem Course.renamed {outcomes : Nat → Outcome} {first pass : Pass Key}
    {marks : List (Option Request)} (course : Course keyOf outcomes first marks pass) :
    Course keyOf outcomes (first.renamed names) marks (pass.renamed names) := by
  induction course with
  | start => exact .start
  | move _ move induction => exact induction.move (move.renamed names)

end Pass
end

/-! ## Plain prose -/

theorem Record.file_of_mem_diagnostics {scope : Scope} {record : Record} {diagnostic : Diagnostic}
    (mem : diagnostic ∈ record.diagnostics scope) :
    ∀ location ∈ diagnostic.locations, location.file ∈ scope.world.files := by
  obtain ⟨suggestion, -, located⟩ := List.mem_filterMap.1 mem
  rw [Chunk.locations_of_locate? located]
  exact PositionMap.file_of_mem_locations

section

variable {Key : Type} [DecidableEq Key] {names other : FileId → FileId} {scope : Scope}
  (agree : ∀ file ∈ scope.world.files, names file = other file)
include agree

theorem Record.map_renamed_congr (records : List Record) :
    (records.flatMap (Record.diagnostics scope)).map (Diagnostic.renamed names) =
      (records.flatMap (Record.diagnostics scope)).map (Diagnostic.renamed other) := by
  refine List.map_congr_left fun diagnostic mem => ?_
  obtain ⟨record, -, found⟩ := List.mem_flatMap.1 mem
  have same_locations : diagnostic.locations.map (Location.renamed names) =
      diagnostic.locations.map (Location.renamed other) := by
    refine List.map_congr_left fun location location_mem => ?_
    have file_mem := Record.file_of_mem_diagnostics found location location_mem
    rw [Location.renamed, agree location.file file_mem, Location.renamed]
  simp only [Diagnostic.renamed, same_locations]

/-- The diagnostics on chunks name files of the world, so it does not matter how others are
renamed. -/
theorem Progress.renamedVerdict_settle_congr (keyOf : Text → String → Key)
    (settled : List Settled) :
    Check.renamedVerdict names (Progress.start.settle keyOf scope settled) =
      Check.renamedVerdict other (Progress.start.settle keyOf scope settled) := by
  have same_diagnostics (records : List Record) := Record.map_renamed_congr agree records
  rcases Check.settled_cases settled with
    ⟨records, rfl⟩ | ⟨records, chunk, kept, cause, rest, rfl⟩
  · rw [settle_map_settled]
    simp only [Check.renamedVerdict, Check.renamedEnd, renamed, Findings.renamed,
      diagnostics_recordAll_start, same_diagnostics]
  · rw [settle_records, settle]
    simp only [Check.renamedVerdict, Check.renamedEnd, Abortion.renamed,
      diagnostics_recordAll_start, same_diagnostics]

end

namespace Check

variable {Key : Type} [DecidableEq Key]

/-- A check asks what another one asks, and ends as it does but for names of files.  Side by side,
requests may go out and come back in the same ways. -/
structure AgreesUpTo (names : FileId → FileId) (keyOf : Text → String → Key)
    (assignment other : Assignment) (cache : Cache Key) : Prop where
  run : ∀ {State : Type} (server : Server State) (state : State),
    Check.run keyOf server state other cache =
      (renamedOutcome names (Check.run keyOf server state assignment cache).1,
        (Check.run keyOf server state assignment cache).2)
  requests : ∀ {State : Type} (server : Server State) (state : State),
    (Check.run keyOf server.logged (state, []) other cache).2.2 =
      (Check.run keyOf server.logged (state, []) assignment cache).2.2
  course : ∀ {outcomes : Nat → Outcome} {marks : List (Option Request)} {pass : Pass Key},
    Pass.Course keyOf outcomes (.start keyOf assignment cache) marks pass →
      ∃ mirrored, Pass.Course keyOf outcomes (.start keyOf other cache) marks mirrored ∧
        mirrored.verdict? = pass.verdict?.map (renamedVerdict names)

/-- A check of renamed files agrees with that of the files, however files of no source are
renamed. -/
theorem agreesUpTo_renamed (keyOf : Text → String → Key) {names : Equiv.Perm FileId}
    {change : FileId → FileId} {assignment : Assignment}
    (agree : ∀ file ∈ assignment.world.files, names file = change file)
    (chunks_eq : (assignment.renamed names).chunks = assignment.chunks.map (Chunk.renamed names))
    (cache : Cache Key) :
    AgreesUpTo change keyOf assignment (assignment.renamed names) cache := by
  have scope_agrees : ∀ file ∈ assignment.scope.world.files, names file = change file := agree
  have same_verdict := Progress.renamedVerdict_settle_congr scope_agrees keyOf
  constructor
  case run =>
    intro State server state
    rw [run_renamed names keyOf chunks_eq, renamedOutcome_run, renamedOutcome_run, same_verdict]
  case requests =>
    intro State server state
    rw [run_renamed names keyOf chunks_eq]
  case course =>
    intro outcomes marks pass course
    have mirrored := course.renamed names
    rw [← Pass.start_renamed names keyOf chunks_eq] at mirrored
    refine ⟨_, mirrored, ?_⟩
    rw [Pass.verdict?_renamed]
    cases ends : pass.verdict? with
    | none => rfl
    | some verdict =>
        rw [Pass.start_eq_ofChunks] at course
        rw [Option.map_some, Option.map_some, course.onCourse.verdict_eq ends, same_verdict]

/-- File names are opaque, but for the empty one.  Plain prose in one file is checked by the
requests that it is checked by in another file, and with the same result, its locations moved to the
other file.  Only where just the main file is checked, none or both of the names must be empty. -/
theorem check_of_moved_prose (keyOf : Text → String → Key) (text : Text) (options : Options)
    (allFiles : Bool) {file other : FileId}
    (same_blank : allFiles = true ∨ (file = "" ↔ other = "")) (cache : Cache Key) :
    AgreesUpTo (fun _ => other) keyOf ⟨.ofProse file text, options, allFiles⟩
      ⟨.ofProse other text, options, allFiles⟩ cache := by
  have moved : Equiv.swap file other file = other := Equiv.swap_apply_left file other
  have assignment_eq : Assignment.renamed (Equiv.swap file other)
      ⟨.ofProse file text, options, allFiles⟩ = ⟨.ofProse other text, options, allFiles⟩ := by
    conv_rhs => rw [← moved]
    rfl
  rw [← assignment_eq]
  apply agreesUpTo_renamed
  · intro name mem
    obtain rfl : name = file := List.mem_singleton.1 mem
    exact moved
  · apply World.chunks_renamed
    · rfl
    · refine same_blank.imp_right fun same name name_eq => ?_
      obtain rfl : file = name := Option.some.inj name_eq
      rw [moved, same]

/-- A word that is spelled wrong. -/
def misspelt : Text := ['T', 'h', 'i', 's', 's', '.']

/-- A server that remarks on the first five characters of every request. -/
def speller : Server Unit := .ofFunction fun _ => .ok [⟨0, 5, "Spelling", "", "", []⟩]

/-- Locations of what a check reports. -/
def located {Key : Type} :
    Except Abortion (Report × Cache Key) → Option (List (List Location))
  | .ok (report, _) => some (report.diagnostics.map Diagnostic.locations)
  | .error _ => none

theorem located_renamedOutcome {Key : Type} (names : FileId → FileId)
    (outcome : Except Abortion (Report × Cache Key)) :
    located (renamedOutcome names outcome) =
      (located outcome).map (List.map (List.map (Location.renamed names))) := by
  cases outcome with
  | error abortion => rfl
  | ok result =>
      simp only [renamedEnd, located, Report.renamed, List.map_map, Option.map_some]
      rfl

theorem located_misspelt :
    located (run Prod.mk speller () ⟨.ofProse "main.txt" misspelt, .standard, false⟩ .empty).1 =
      some [[⟨"main.txt", 0, 5⟩]] := by
  decide +kernel

theorem check_of_moved_prose_misspelt :
    AgreesUpTo (fun _ => "notes.txt") Prod.mk ⟨.ofProse "main.txt" misspelt, .standard, false⟩
        ⟨.ofProse "notes.txt" misspelt, .standard, false⟩ .empty ∧
      located (run Prod.mk speller () ⟨.ofProse "notes.txt" misspelt, .standard, false⟩
        .empty).1 = some [[⟨"notes.txt", 0, 5⟩]] := by
  have both_named : "main.txt" = "" ↔ "notes.txt" = "" := by decide
  have agrees := check_of_moved_prose Prod.mk misspelt .standard false (.inr both_named) .empty
  refine ⟨agrees, ?_⟩
  rw [agrees.run, located_renamedOutcome, located_misspelt]
  rfl

/-- A main file with the empty name is not converted, so a check of it asks and finds nothing. -/
theorem run_of_nameless (keyOf : Text → String → Key) {State : Type} (server : Server State)
    (state : State) {world : World} (no_pages : world.pages = none)
    (nameless : world.main = some "") (options : Options) (cache : Cache Key) :
    run keyOf server state ⟨world, options, false⟩ cache =
      (.ok (⟨[], 0, 0, 0, []⟩, .empty), state) := by
  have no_chunks : Assignment.chunks ⟨world, options, false⟩ = [] :=
    World.chunks_nameless no_pages options nameless
  rw [run, no_chunks]
  rfl

/-- So it is not so that all names of files are opaque. -/
theorem check_of_moved_prose_nameless :
    ¬ ∀ (file other : FileId) (text : Text) (options : Options),
        AgreesUpTo (fun _ => other) Prod.mk ⟨.ofProse file text, options, false⟩
          ⟨.ofProse other text, options, false⟩ .empty := by
  intro agrees
  have run_eq := (agrees "main.txt" "" misspelt .standard).run speller ()
  rw [run_of_nameless Prod.mk speller () rfl rfl] at run_eq
  have located_eq := congrArg (fun result => located result.1) run_eq
  simp only [located_renamedOutcome, located_misspelt] at located_eq
  simp [located] at located_eq

end Check
end ProseCheck
