import ProseCheck.Session.Basic

/-!
# Sessions on a clock

A timeline runs a session with a server on a clock that only moves when told to.  An edit sleeps
for the debounce time.  Between two commands everything happens that needs neither time nor an
answer: passes begin, requests go out, and what came back is recorded.  A server may answer at
once, or its answers may be held back until they are released.
-/

namespace ProseCheck

/-- What a timeline runs with. -/
structure Rehearsal (Key State : Type) where
  /-- Keys of paragraphs. -/
  keyOf : Text → String → Key
  /-- The server. -/
  server : Server State
  /-- Whether answers are held back until they are released. -/
  held : Bool
  /-- Seconds that an edit sleeps. -/
  debounce : Float

/-- A request whose answer is held back. -/
structure Call where
  /-- Number of the ticket whose pass sent it. -/
  number : Nat
  /-- Place of the chunk in the running pass. -/
  place : Nat
  /-- What will come of the request. -/
  outcome : Outcome

/-- A session on a clock. -/
structure Timeline (Key State : Type) where
  /-- The session. -/
  session : Session Key
  /-- State of the server. -/
  server : State
  /-- Seconds since the start. -/
  now : Float
  /-- When the sleeping edit wakes. -/
  due : Float
  /-- Requests whose answers are held back, the oldest first. -/
  calls : List Call
  /-- What others saw so far. -/
  notices : List Notice
  /-- Whether the session was closed. -/
  closed : Bool

namespace Timeline

variable {Key State : Type} [DecidableEq Key]

/-- A timeline before the first command. -/
def start (options : Options) (server : State) : Timeline Key State :=
  ⟨.start options, server, 0, 0, [], [], false⟩

/-- Least span of time that counts. -/
def resolution : Float := 1e-9

/-- Something happens to the session; calls of a pass that is over are forgotten. -/
def happen (rehearsal : Rehearsal Key State) (timeline : Timeline Key State)
    (occurrence : Occurrence) : Timeline Key State :=
  let (session, notices) := timeline.session.step rehearsal.keyOf occurrence
  { timeline with
    session
    calls := if session.running.isNone then [] else timeline.calls
    notices := timeline.notices ++ notices }

/-- The server takes a request, and its answer is held back or comes at once. -/
def ask (rehearsal : Rehearsal Key State) (timeline : Timeline Key State) (number place : Nat)
    (request : Request) : Timeline Key State :=
  let (outcome, server) := rehearsal.server timeline.server request
  let timeline := { timeline with server }
  if rehearsal.held then { timeline with calls := timeline.calls ++ [⟨number, place, outcome⟩] }
  else timeline.happen rehearsal (.answer number place outcome)

/-- The running pass sends its next request, if it has one. -/
def launch (rehearsal : Rehearsal Key State) (timeline : Timeline Key State) :
    Timeline Key State :=
  match timeline.session.running with
  | some (ticket, pass) =>
    match pass.launch with
    | some (task, pass) =>
      (timeline.happen rehearsal (.launch ticket.number)).ask rehearsal ticket.number task.place
        (pass.assignment.request task.chunk)
    | none => timeline
  | none => timeline

/-- The running pass sends requests and records answers, at most `fuel` times. -/
def proceed (rehearsal : Rehearsal Key State) : Nat → Timeline Key State → Timeline Key State
  | 0, timeline => timeline
  | fuel + 1, timeline =>
    match timeline.session.running with
    | none => timeline
    | some (ticket, pass) =>
      if pass.next?.isSome then proceed rehearsal fuel (timeline.launch rehearsal)
      else if pass.isReviewable then
        proceed rehearsal fuel (timeline.happen rehearsal (.review ticket.number))
      else timeline

/-- Number of steps that the running pass can take: each chunk is asked about and recorded. -/
def steps (timeline : Timeline Key State) : Nat :=
  timeline.session.running.elim 0 fun (_, pass) => 2 * pass.tasks.length + 1

/-- Passes run and begin, at most `fuel` of them. -/
def settleWith (rehearsal : Rehearsal Key State) : Nat → Timeline Key State → Timeline Key State
  | 0, timeline => timeline
  | fuel + 1, timeline =>
    let timeline := proceed rehearsal timeline.steps timeline
    match timeline.session.running, timeline.session.queue with
    | none, _ :: _ => settleWith rehearsal fuel (timeline.happen rehearsal .grant)
    | _, _ => timeline

/-- Everything happens that needs neither time nor an answer. -/
def settle (rehearsal : Rehearsal Key State) (timeline : Timeline Key State) :
    Timeline Key State :=
  settleWith rehearsal (timeline.session.queue.length + 1) timeline

/-- The sleeping edit wakes if its time has come. -/
def wakeIfDue (rehearsal : Rehearsal Key State) (timeline : Timeline Key State) :
    Timeline Key State :=
  match timeline.session.sleeping with
  | some ticket =>
    if timeline.due < timeline.now + resolution then
      (timeline.happen rehearsal (.fire ticket.number)).happen rehearsal (.wake ticket.number)
    else timeline
  | none => timeline

/-- The document is edited. -/
def edit (rehearsal : Rehearsal Key State) (timeline : Timeline Key State) (world : World) :
    Timeline Key State :=
  let timeline := timeline.happen rehearsal (.edit world)
  (({ timeline with due := timeline.now + max 0 rehearsal.debounce }).wakeIfDue rehearsal).settle
    rehearsal

/-- The user asks for a check. -/
def check (rehearsal : Rehearsal Key State) (timeline : Timeline Key State) (world : World) :
    Timeline Key State :=
  (timeline.happen rehearsal (.check world)).settle rehearsal

/-- The clock moves. -/
def advance (rehearsal : Rehearsal Key State) (timeline : Timeline Key State) (seconds : Float) :
    Timeline Key State :=
  (({ timeline with now := timeline.now + seconds }).wakeIfDue rehearsal).settle rehearsal

/-- Sends at most `count` requests. -/
def launchSome (rehearsal : Rehearsal Key State) : Nat → Timeline Key State → Timeline Key State
  | 0, timeline => timeline
  | count + 1, timeline => launchSome rehearsal count (timeline.launch rehearsal)

/-- Whether the review of a pass would end it with a failure. -/
def fails (rehearsal : Rehearsal Key State) (pass : Pass Key) : Bool :=
  match (pass.review rehearsal.keyOf).verdict? with
  | some (.error _) => true
  | _ => false

/-- Releases the oldest calls.  Every released call lets one more request go out.  A pass that
fails by them ends once the call that it was waiting for and those before are replaced. -/
def release (rehearsal : Rehearsal Key State) (timeline : Timeline Key State) (count : Nat) :
    Timeline Key State :=
  let released := timeline.calls.take count
  let awaited := timeline.session.running.bind fun (_, pass) => pass.tasks.head?.map Task.place
  let timeline := released.foldl
    (fun timeline call => timeline.happen rehearsal (.answer call.number call.place call.outcome))
    { timeline with calls := timeline.calls.drop count }
  let timeline :=
    match timeline.session.running with
    | some (ticket, pass) =>
      if fails rehearsal pass then
        let replaced := released.findIdx fun call : Call => some call.place == awaited
        let launched := if pass.assignment.inTurn then 0 else replaced + 1
        (launchSome rehearsal launched timeline).happen rehearsal (.review ticket.number)
      else timeline
    | none => timeline
  timeline.settle rehearsal

/-- Number of chunks of a ticket. -/
def chunkCount (timeline : Timeline Key State) (ticket : Ticket) : Nat :=
  (timeline.session.options.assignment ticket.world).chunks.length

/-- Number of times that the clock must move by a second, and all calls be released, until no
edit is left. -/
def rounds (timeline : Timeline Key State) : Nat :=
  let tickets := timeline.session.sleeping.toList ++ timeline.session.queue
  (timeline.due - timeline.now).ceil.toUInt64.toNat + timeline.steps
    + tickets.foldr (fun ticket total => timeline.chunkCount ticket + 1 + total) 0 + 1

/-- The clock moves and calls are released until no edit is left, at most `fuel` times. -/
def waitWith (rehearsal : Rehearsal Key State) : Nat → Timeline Key State → Timeline Key State
  | 0, timeline => timeline
  | fuel + 1, timeline =>
    if timeline.session.hasEdits then
      let timeline := timeline.advance rehearsal 1
      waitWith rehearsal fuel (timeline.release rehearsal timeline.calls.length)
    else timeline

/-- The clock moves and calls are released until no edit is left. -/
def wait (rehearsal : Rehearsal Key State) (timeline : Timeline Key State) : Timeline Key State :=
  waitWith rehearsal timeline.rounds timeline

/-- Edits are cancelled, and the session is closed.  A pass that is cut short first gives up the
request that it waits for, in whose stead one more goes out. -/
def close (rehearsal : Rehearsal Key State) (timeline : Timeline Key State) :
    Timeline Key State :=
  let timeline :=
    match timeline.session.running with
    | some (ticket, _) =>
      (timeline.happen rehearsal (.withdraw ticket.number)).launch rehearsal
    | none => timeline
  { (timeline.happen rehearsal .cancelEdits).settle rehearsal with closed := true }

end Timeline
end ProseCheck
