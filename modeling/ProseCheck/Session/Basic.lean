import ProseCheck.Check.Pass

/-!
# Sessions

A session checks one document again and again while it is edited.  An edit is checked once the
edits pause: it sleeps, and a newer edit cancels the one in the slot, where each edit stands until
it goes on after its sleep.  Passes run under a lock, which is handed on in the order in which it
was asked for, and each starts from the cache of the last one that succeeded.  The report of an edit
is delivered unless a newer edit has come by then.
-/

namespace ProseCheck

/-- A pass that was asked for. -/
structure Ticket where
  /-- Number among all that was asked for, from zero. -/
  number : Nat
  /-- Number of the edit that asked for it, from one; none if the user did. -/
  edit : Option Nat
  /-- The document. -/
  world : World

/-- What came of a ticket. -/
inductive Ending where
  /-- It was cancelled. -/
  | cancelled
  /-- The check of an edit failed, or a newer edit came before its end. -/
  | unheard
  /-- The check succeeded. -/
  | report (report : Report)
  /-- The check that the user asked for failed. -/
  | abortion (abortion : Abortion)

/-- What others see of a session. -/
inductive Notice where
  /-- A request goes out for a chunk of the running pass. -/
  | request (place : Nat) (request : Request)
  /-- A ticket came to its end. -/
  | ended (number : Nat) (ending : Ending)
  /-- The report of an edit is handed to the user. -/
  | delivered (edit : Nat) (report : Report)

/-- What can happen to a session.  What happens to one errand names its number. -/
inductive Occurrence where
  /-- The document is edited. -/
  | edit (world : World)
  /-- The user asks for a check. -/
  | check (world : World)
  /-- The debounce time of an edit is over. -/
  | fire (number : Nat)
  /-- An edit whose time is over goes on. -/
  | wake (number : Nat)
  /-- The first errand that waits for the lock gets it and begins its pass. -/
  | grant
  /-- A running pass sends a request. -/
  | launch (number : Nat)
  /-- Something comes of a request of a running pass. -/
  | answer (number place : Nat) (outcome : Outcome)
  /-- A running pass records what came back. -/
  | review (number : Nat)
  /-- The running pass of an edit gives up the request that it waits for. -/
  | withdraw (number : Nat)
  /-- All edits are cancelled. -/
  | cancelEdits

/-- How far an errand has come. -/
inductive Phase (Key : Type) where
  /-- It sleeps out the debounce time. -/
  | sleeping
  /-- Its time is over, but it has not gone on yet. -/
  | roused
  /-- It waits for the lock. -/
  | queued
  /-- It holds the lock, and its pass is under way. -/
  | running (pass : Pass Key)
  /-- It has come to its end. -/
  | done

namespace Phase

variable {Key : Type}

/-- Whether the sleep is not behind the errand. -/
def isAsleep : Phase Key → Bool
  | .sleeping | .roused => true
  | .queued | .running _ | .done => false

/-- Whether the errand waits for the lock. -/
def isQueued : Phase Key → Bool
  | .queued => true
  | .sleeping | .roused | .running _ | .done => false

/-- The pass under way. -/
def pass? : Phase Key → Option (Pass Key)
  | .running pass => some pass
  | .sleeping | .roused | .queued | .done => none

/-- Whether the pass of the errand is under way. -/
def isRunning (phase : Phase Key) : Bool := phase.pass?.isSome

/-- Whether the errand has come to its end. -/
def isDone : Phase Key → Bool
  | .done => true
  | .sleeping | .roused | .queued | .running _ => false

end Phase

/-- A ticket on its way. -/
structure Errand (Key : Type) where
  /-- The ticket. -/
  ticket : Ticket
  /-- How far it has come. -/
  phase : Phase Key

namespace Errand

variable {Key : Type}

/-- The ticket of an errand that sleeps. -/
def sleeper? (errand : Errand Key) : Option Ticket :=
  if errand.phase.isAsleep then some errand.ticket else none

/-- The ticket of an errand whose pass is under way, and the pass. -/
def run? (errand : Errand Key) : Option (Ticket × Pass Key) :=
  errand.phase.pass?.map fun pass => (errand.ticket, pass)

end Errand

/-- A session. -/
structure Session (Key : Type) where
  /-- Options of all passes. -/
  options : Options
  /-- Number of edits so far. -/
  edits : Nat
  /-- Everything that was asked for so far, by number. -/
  errands : List (Errand Key)
  /-- The slot: number of the newest edit, until that goes on after its sleep. -/
  waiting : Option Nat
  /-- Whether the lock is held. -/
  locked : Bool
  /-- Numbers of the errands that wait for the lock, the oldest first. -/
  waiters : List Nat
  /-- Cache of the last pass that succeeded. -/
  cache : Cache Key

/-- The check of one document in a session. -/
def Options.assignment (options : Options) (world : World) : Assignment := ⟨world, options, false⟩

namespace Session

variable {Key : Type}

/-- A session before the first edit. -/
def start (options : Options) : Session Key := ⟨options, 0, [], none, false, [], .empty⟩

/-- Number of tickets so far. -/
def tickets (session : Session Key) : Nat := session.errands.length

/-- Whether the errand of a number is in a phase of some kind. -/
def isAt (session : Session Key) (number : Nat) (kind : Phase Key → Bool) : Bool :=
  (session.errands[number]?).any fun errand => kind errand.phase

/-- The edit that sleeps. -/
def sleeping (session : Session Key) : Option Ticket := session.errands.findSome? Errand.sleeper?

/-- Tickets that wait for the lock, the oldest first. -/
def queue (session : Session Key) : List Ticket :=
  session.waiters.filterMap fun number => (session.errands[number]?).map Errand.ticket

/-- The ticket whose pass is under way, and the pass. -/
def running (session : Session Key) : Option (Ticket × Pass Key) :=
  session.errands.findSome? Errand.run?

/-- Numbers of the edits that have not come to their end. -/
def liveEdits (session : Session Key) : List Nat :=
  (session.errands.filter fun errand =>
    errand.ticket.edit.isSome && !errand.phase.isDone).map fun errand => errand.ticket.number

/-- The session once an errand has come to a phase. -/
def move (session : Session Key) (number : Nat) (phase : Phase Key) : Session Key :=
  { session with
    errands := session.errands.modify number fun errand => { errand with phase } }

/-- An errand is cancelled wherever it stands: it leaves the line for the lock, or frees the lock if
it holds it.  One that has come to its end stays as it is. -/
def cancel (session : Session Key) (number : Nat) : Session Key × List Notice :=
  match session.errands[number]? with
  | some ⟨_, phase⟩ =>
    if phase.isDone then (session, [])
    else
      ({ session.move number .done with
          locked := session.locked && !phase.isRunning
          waiters := session.waiters.erase number }, [.ended number .cancelled])
  | none => (session, [])

/-- Errands are cancelled one after the other. -/
def cancelAll (session : Session Key) : List Nat → Session Key × List Notice
  | [] => (session, [])
  | number :: rest =>
    let (next, notices) := session.cancel number
    let (last, more) := next.cancelAll rest
    (last, notices ++ more)

/-- The edit in the slot is cancelled, unless it has come to its end. -/
def cancelWaiting (session : Session Key) : Session Key × List Notice :=
  match session.waiting with
  | some number =>
    if session.isAt number Phase.isDone then (session, [])
    else session.cancel number
  | none => (session, [])

/-- The session with one errand more. -/
def ask (session : Session Key) (edit : Option Nat) (world : World) (phase : Phase Key) :
    Session Key :=
  { session with errands := session.errands ++ [⟨⟨session.tickets, edit, world⟩, phase⟩] }

/-- The session with a new edit, which takes the slot. -/
def scheduled (session : Session Key) (world : World) : Session Key :=
  { session.ask (some (session.edits + 1)) world .sleeping with
    edits := session.edits + 1
    waiting := some session.tickets }

/-- The session with a check that the user asks for, which goes to the end of the line. -/
def enlisted (session : Session Key) (world : World) : Session Key :=
  { session.ask none world .queued with waiters := session.waiters ++ [session.tickets] }

/-- The session once an errand has gone on after its sleep: it clears the slot if it stands there,
and asks for the lock. -/
def wakened (session : Session Key) (number : Nat) : Session Key :=
  { session.move number .queued with
    waiting := if session.waiting = some number then none else session.waiting
    waiters := session.waiters ++ [number] }

/-- The session once an errand has got the lock and begins its pass. -/
def granted (session : Session Key) (number : Nat) (pass : Pass Key) : Session Key :=
  { session.move number (.running pass) with
    locked := true
    waiters := session.waiters.erase number }

/-- Notices of the end of a pass, after a number of edits. -/
def endings (edits : Nat) (pass : Pass Key) (ticket : Ticket) :
    Except Abortion (Progress Key) → List Notice
  | .ok progress =>
    let report := Check.report pass.size progress
    match ticket.edit with
    | none => [.ended ticket.number (.report report)]
    | some edit =>
      if edit = edits then
        [.delivered edit report, .ended ticket.number (.report report)]
      else [.ended ticket.number .unheard]
  | .error abortion =>
    match ticket.edit with
    | none => [.ended ticket.number (.abortion abortion)]
    | some _ => [.ended ticket.number .unheard]

/-- The session after the end of a pass, which frees the lock: a pass that succeeded leaves its
cache. -/
def finish (session : Session Key) (number : Nat) (verdict : Except Abortion (Progress Key)) :
    Session Key :=
  { session.move number .done with
    locked := false
    cache :=
      match verdict with
      | .ok progress => progress.cache
      | .error _ => session.cache }

variable [DecidableEq Key]

/-- A session with the review of a pass. -/
def reviewed (keyOf : Text → String → Key) (session : Session Key) (number : Nat)
    (ticket : Ticket) (pass : Pass Key) : Session Key × List Notice :=
  let pass := pass.review keyOf
  match pass.verdict? with
  | some verdict => (session.finish number verdict, endings session.edits pass ticket verdict)
  | none => (session.move number (.running pass), [])

/-- The session after something happened, and what others see of it. -/
def step (keyOf : Text → String → Key) (session : Session Key) :
    Occurrence → Session Key × List Notice
  | .edit world =>
    let (session, notices) := session.cancelWaiting
    (session.scheduled world, notices)
  | .check world => (session.enlisted world, [])
  | .fire number =>
    match session.errands[number]? with
    | some ⟨_, .sleeping⟩ => (session.move number .roused, [])
    | _ => (session, [])
  | .wake number =>
    match session.errands[number]? with
    | some ⟨_, .roused⟩ => (session.wakened number, [])
    | _ => (session, [])
  | .grant =>
    match session.locked, session.waiters with
    | false, number :: _ =>
      match session.errands[number]? with
      | some ⟨ticket, _⟩ =>
        let pass := .start keyOf (session.options.assignment ticket.world) session.cache
        (session.granted number pass, [])
      | none => (session, [])
    | _, _ => (session, [])
  | .launch number =>
    match session.errands[number]? with
    | some ⟨_, .running pass⟩ =>
      match pass.launch with
      | some (task, pass) =>
        (session.move number (.running pass),
          [.request task.place (pass.assignment.request task.chunk)])
      | none => (session, [])
    | _ => (session, [])
  | .answer number place outcome =>
    match session.errands[number]? with
    | some ⟨_, .running pass⟩ => (session.move number (.running (pass.answer place outcome)), [])
    | _ => (session, [])
  | .review number =>
    match session.errands[number]? with
    | some ⟨ticket, .running pass⟩ => session.reviewed keyOf number ticket pass
    | _ => (session, [])
  | .withdraw number =>
    match session.errands[number]? with
    | some ⟨ticket, .running pass⟩ =>
      if ticket.edit.isSome then (session.move number (.running pass.withdraw), [])
      else (session, [])
    | _ => (session, [])
  | .cancelEdits => session.cancelAll session.liveEdits

/-- The session after some things happened, and all that others saw. -/
def run (keyOf : Text → String → Key) (session : Session Key) :
    List Occurrence → Session Key × List Notice
  | [] => (session, [])
  | occurrence :: rest =>
    let (next, notices) := session.step keyOf occurrence
    let (last, more) := next.run keyOf rest
    (last, notices ++ more)

/-- Whether an edit has not come to its end. -/
def hasEdits (session : Session Key) : Bool := !session.liveEdits.isEmpty

end Session
end ProseCheck
