import ProseCheck.Check.Run

/-!
# Passes under way

A pass is a check whose requests are under way.  A task stands for each chunk that is not
recorded yet.  Requests go out, answers come back in any order, and a review records what has
come back for the chunks at the front, so what a pass records does not hang on the order in
which answers come back.
-/

namespace ProseCheck

/-- How far the check of a chunk has come. -/
inductive Stage where
  /-- The answer was kept from before. -/
  | kept (answer : Answer)
  /-- No request has gone out. -/
  | waiting
  /-- A request is under way. -/
  | asked
  /-- A request went out and was given up. -/
  | withdrawn
  /-- The server has answered or failed. -/
  | settled (outcome : Outcome)

/-- A chunk of a pass that is not recorded. -/
structure Task where
  /-- Place of the chunk among those of the pass. -/
  place : Nat
  /-- The chunk. -/
  chunk : Chunk
  /-- How far it has come. -/
  stage : Stage

/-- A check whose requests are under way. -/
structure Pass (Key : Type) where
  /-- What is checked. -/
  assignment : Assignment
  /-- Number of chunks. -/
  size : Nat
  /-- What is recorded. -/
  progress : Progress Key
  /-- Chunks that are not recorded, in order. -/
  tasks : List Task

namespace Task

/-- Task of a job. -/
def ofJob (place : Nat) (job : Job) : Task :=
  ⟨place, job.chunk, match job.kept with
    | some answer => .kept answer
    | none => .waiting⟩

/-- Whether no request for a task has gone out. -/
def isWaiting (task : Task) : Bool :=
  match task.stage with
  | .waiting => true
  | _ => false

/-- Whether a request for a task is under way. -/
def isAsked (task : Task) : Bool :=
  match task.stage with
  | .asked => true
  | _ => false

/-- Whether a review of the task would record it or end the pass. -/
def isReviewable (task : Task) : Bool :=
  match task.stage with
  | .kept _ | .settled _ => true
  | .waiting | .asked | .withdrawn => false

/-- The task with what came of its request; what comes without a request is left aside. -/
def settle (task : Task) (outcome : Outcome) : Task :=
  if task.isAsked then { task with stage := .settled outcome } else task

/-- The task without the request that is under way. -/
def withdraw (task : Task) : Task :=
  if task.isAsked then { task with stage := .withdrawn } else task

end Task

namespace Pass

variable {Key : Type} [DecidableEq Key]

/-- A pass before its first request, with the answers that a cache keeps. -/
def start (keyOf : Text → String → Key) (assignment : Assignment) (cache : Cache Key) :
    Pass Key where
  assignment := assignment
  size := assignment.chunks.length
  progress := .start
  tasks := (Check.jobs keyOf cache assignment.chunks).mapIdx Task.ofJob

/-- Number of requests under way. -/
def underWay (pass : Pass Key) : Nat := (pass.tasks.filter Task.isAsked).length

/-- The task whose request goes out next: in turn the first task, if it waits; side by side the
first waiting one, while fewer requests are under way than may be. -/
def next? (pass : Pass Key) : Option Task :=
  if pass.assignment.inTurn then pass.tasks.head?.filter Task.isWaiting
  else if pass.underWay < pass.assignment.options.concurrency then pass.tasks.find? Task.isWaiting
  else none

/-- The pass with a change of the task at a place. -/
def change (pass : Pass Key) (place : Nat) (change : Task → Task) : Pass Key :=
  { pass with tasks := pass.tasks.map fun task => if task.place = place then change task else task }

/-- Sends the next request. -/
def launch (pass : Pass Key) : Option (Task × Pass Key) :=
  pass.next?.map fun task =>
    (task, pass.change task.place fun task => { task with stage := .asked })

/-- Takes what came of the request for a place. -/
def answer (pass : Pass Key) (place : Nat) (outcome : Outcome) : Pass Key :=
  pass.change place fun task => task.settle outcome

/-- Gives up the request that the pass waits for, so that another may go out. -/
def withdraw (pass : Pass Key) : Pass Key :=
  match pass.tasks with
  | [] => pass
  | task :: rest => { pass with tasks := task.withdraw :: rest }

/-- Records tasks at the front that have an answer. -/
def reviewFrom (keyOf : Text → String → Key) (scope : Scope) (progress : Progress Key) :
    List Task → Progress Key × List Task
  | [] => (progress, [])
  | ⟨place, chunk, stage⟩ :: rest =>
    match stage with
    | .kept answer => reviewFrom keyOf scope (progress.record keyOf scope chunk true answer) rest
    | .settled (.ok answer) =>
      reviewFrom keyOf scope (progress.record keyOf scope chunk false answer) rest
    | .settled (.error _) | .waiting | .asked | .withdrawn =>
      (progress, ⟨place, chunk, stage⟩ :: rest)

/-- Records what has come back for the chunks at the front. -/
def review (keyOf : Text → String → Key) (pass : Pass Key) : Pass Key :=
  let (progress, tasks) := reviewFrom keyOf pass.assignment.scope pass.progress pass.tasks
  { pass with progress, tasks }

/-- How a reviewed pass ends: when all chunks are recorded, or at the first failure. -/
def verdict? (pass : Pass Key) : Option (Except Abortion (Progress Key)) :=
  match pass.tasks with
  | [] => some (.ok pass.progress)
  | ⟨_, _, .settled (.error cause)⟩ :: _ =>
    some (.error ⟨pass.progress.findings.diagnostics, cause⟩)
  | _ => none

/-- Whether a review would change the pass or end it. -/
def isReviewable (pass : Pass Key) : Bool :=
  match pass.tasks with
  | [] => true
  | task :: _ => task.isReviewable

end Pass
end ProseCheck
