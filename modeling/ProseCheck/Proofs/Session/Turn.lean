import ProseCheck.Proofs.Check.Recheck
import ProseCheck.Proofs.Session.Standing

/-!
# Turns of a session

A turn is what one occurrence does to where a session stands, and what others see of it.  What a
turn keeps is kept whatever happens.
-/

namespace ProseCheck

/-- What others see of the end of a pass: the report of the newest edit is delivered, and in any
case the ticket comes to its end. -/
theorem Session.endings_cases {Key : Type} (edits : Nat) (pass : Pass Key) (ticket : Ticket)
    (verdict : Except Abortion (Progress Key)) :
    (∃ progress, verdict = .ok progress ∧ ticket.edit = some edits ∧
      endings edits pass ticket verdict =
        [.delivered edits (Check.report pass.size progress),
          .ended ticket.number (.report (Check.report pass.size progress))]) ∨
    ∃ ending, ending ≠ .cancelled ∧
      endings edits pass ticket verdict = [.ended ticket.number ending] := by
  cases verdict with
  | error abortion =>
      right
      rw [endings]
      split
      · exact ⟨.abortion abortion, Ending.noConfusion, rfl⟩
      · exact ⟨.unheard, Ending.noConfusion, rfl⟩
  | ok progress =>
      rw [endings]
      split
      · exact .inr ⟨.report _, Ending.noConfusion, rfl⟩
      · rename_i edit edit_eq
        split
        · rename_i is_newest
          left
          rw [is_newest] at edit_eq ⊢
          exact ⟨progress, rfl, edit_eq, rfl⟩
        · exact .inr ⟨.unheard, Ending.noConfusion, rfl⟩

namespace Standing

open Session

variable {Key : Type}

theorem engaged_running {standing : Standing Key} {ticket : Ticket} {pass : Pass Key}
    (running : standing.running = some (ticket, pass)) :
    standing.engaged = ticket :: standing.queue := by
  rw [engaged, running]
  rfl

/-- Another pass of the same ticket is no new engagement. -/
theorem engaged_rerun {standing : Standing Key} {ticket : Ticket} {pass : Pass Key}
    (running : standing.running = some (ticket, pass)) (next : Pass Key) :
    { standing with running := some (ticket, next) }.engaged = standing.engaged := by
  rw [engaged_running running]
  rfl

variable [DecidableEq Key] {keyOf : Text → String → Key} {standing next : Standing Key}
  {occurrence : Occurrence} {notices : List Notice}

/-- What an occurrence makes of where a session stands, and what others see of it. -/
inductive Turn (keyOf : Text → String → Key) (standing : Standing Key) :
    Occurrence → Standing Key → List Notice → Prop where
  | edit (world : World) :
      Turn keyOf standing (.edit world)
        { standing with
          tickets := standing.tickets + 1
          edits := standing.edits + 1
          sleeping := some (standing.issued world) }
        (cancelled (standing.sleeping.toList.map Ticket.number))
  | check (world : World) :
      Turn keyOf standing (.check world)
        { standing with
          tickets := standing.tickets + 1
          queue := standing.queue ++ [⟨standing.tickets, none, world⟩] }
        []
  | wake (number : Nat) :
      Turn keyOf standing (.wake number)
        { standing with sleeping := none, queue := standing.queue ++ standing.sleeping.toList } []
  | grant {ticket : Ticket} {rest : List Ticket} :
      standing.running = none → standing.queue = ticket :: rest →
      Turn keyOf standing .grant
        { standing with
          queue := rest
          running := some
            (ticket, .start keyOf (standing.options.assignment ticket.world) standing.cache) }
        []
  | ask {ticket : Ticket} {pass next : Pass Key} {task : Task} :
      standing.running = some (ticket, pass) → pass.launch = some (task, next) →
      Turn keyOf standing (.launch ticket.number)
        { standing with running := some (ticket, next) }
        [.request task.place (next.assignment.request task.chunk)]
  | work {occurrence : Occurrence} {ticket : Ticket} {pass next : Pass Key} :
      standing.running = some (ticket, pass) → pass.Moved keyOf ticket.number occurrence next →
      Turn keyOf standing occurrence { standing with running := some (ticket, next) } []
  | finish {ticket : Ticket} {pass : Pass Key} {verdict : Except Abortion (Progress Key)} :
      standing.running = some (ticket, pass) → (pass.review keyOf).verdict? = some verdict →
      Turn keyOf standing (.review ticket.number) (standing.finish verdict)
        (endings standing.edits (pass.review keyOf) ticket verdict)
  | cancelEdits {numbers : List Nat} :
      numbers.Perm ((standing.pending.filter fun ticket => ticket.edit.isSome).map Ticket.number) →
      Turn keyOf standing .cancelEdits standing.withoutEdits (cancelled numbers)
  | rest {occurrence : Occurrence} :
      occurrence.world? = none → Turn keyOf standing occurrence standing []

end Standing

theorem Pass.Moved.reached {Key : Type} [DecidableEq Key] {keyOf : Text → String → Key}
    {number : Nat} {pass next : Pass Key} {occurrence : Occurrence} {assignment : Assignment}
    {cache : Cache Key} (moved : pass.Moved keyOf number occurrence next)
    (reached : Reached keyOf assignment cache pass) : Reached keyOf assignment cache next := by
  cases moved with
  | answer place outcome => exact .answer place outcome reached
  | review => exact .review reached
  | withdraw => exact .withdraw reached

namespace Standing

open Session

variable {Key : Type} [DecidableEq Key] {keyOf : Text → String → Key} {standing next : Standing Key}
  {occurrence : Occurrence} {notices : List Notice}

/-- A session with some options, whose running pass began with the cache that is still there. -/
structure Begun (keyOf : Text → String → Key) (options : Options) (standing : Standing Key) :
    Prop where
  options_eq : standing.options = options
  running : ∀ ticket pass, standing.running = some (ticket, pass) →
    Pass.Reached keyOf (options.assignment ticket.world) standing.cache pass

theorem begun_start (keyOf : Text → String → Key) (options : Options) :
    (start options : Session Key).standing.Begun keyOf options where
  options_eq := rfl
  running := by simp [start, Session.standing, Session.running]

theorem Begun.rerun {options : Options} (begun : standing.Begun keyOf options) {ticket : Ticket}
    {pass after : Pass Key} (running : standing.running = some (ticket, pass))
    (reached : Pass.Reached keyOf (options.assignment ticket.world) standing.cache pass →
      Pass.Reached keyOf (options.assignment ticket.world) standing.cache after) :
    { standing with running := some (ticket, after) }.Begun keyOf options where
  options_eq := begun.options_eq
  running := by
    intro other next same
    obtain ⟨rfl, rfl⟩ := Prod.mk.inj (Option.some.inj same)
    exact reached (begun.running ticket pass running)

namespace Turn

/-- Edits are numbered as they come. -/
theorem edits_eq (turn : standing.Turn keyOf occurrence next notices) :
    next.edits = standing.edits + occurrence.edited?.toList.length := by
  cases turn with
  | edit world | check world | wake | grant | ask | cancelEdits => rfl
  | work running moved => rw [Occurrence.edited?_eq_none moved.unasked]; rfl
  | rest unasked => rw [Occurrence.edited?_eq_none unasked]; rfl
  | finish => rfl

/-- Tickets are numbered by the documents that a session is asked about. -/
theorem tickets_eq (turn : standing.Turn keyOf occurrence next notices) :
    next.tickets = standing.tickets + occurrence.world?.toList.length := by
  cases turn with
  | work running moved => rw [moved.unasked]; rfl
  | rest unasked => rw [unasked]; rfl
  | _ => rfl

/-- Only the review of a pass delivers a report, and only that of the newest edit. -/
theorem of_delivered (turn : standing.Turn keyOf occurrence next notices) {edit : Nat}
    {report : Report} (mem : .delivered edit report ∈ notices) :
    ∃ ticket pass progress, standing.running = some (ticket, pass) ∧
      (pass.review keyOf).verdict? = some (.ok progress) ∧ ticket.edit = some edit ∧
        edit = standing.edits ∧ report = Check.report (pass.review keyOf).size progress := by
  cases turn with
  | edit world | cancelEdits => simp [cancelled] at mem
  | check world | wake | grant | ask | work | rest => simp at mem
  | @finish ticket pass verdict running ends =>
      rcases endings_cases standing.edits (pass.review keyOf) ticket verdict with
        ⟨progress, rfl, edit_eq, endings_eq⟩ | ⟨ending, -, endings_eq⟩
      · rw [endings_eq] at mem
        obtain ⟨rfl, rfl⟩ : edit = standing.edits ∧ report = _ := by simpa using mem
        exact ⟨ticket, pass, progress, running, ends, edit_eq, rfl, rfl⟩
      · simp [endings_eq] at mem

/-- A request is one of the pass that runs. -/
theorem of_request (turn : standing.Turn keyOf occurrence next notices) {place : Nat}
    {request : Request} (mem : .request place request ∈ notices) :
    ∃ ticket pass task after, standing.running = some (ticket, pass) ∧
      pass.launch = some (task, after) ∧ request = after.assignment.request task.chunk := by
  cases turn with
  | edit world | cancelEdits => simp [cancelled] at mem
  | check world | wake | grant | work | rest => simp at mem
  | @ask ticket pass after task running launched =>
      obtain ⟨-, rfl⟩ := Notice.request.inj (List.mem_singleton.1 mem)
      exact ⟨ticket, pass, task, after, running, launched, rfl⟩
  | @finish ticket pass verdict running ends =>
      rcases endings_cases standing.edits (pass.review keyOf) ticket verdict with
        ⟨progress, -, -, endings_eq⟩ | ⟨ending, -, endings_eq⟩
      all_goals simp [endings_eq] at mem

/-- A pass that runs or will run is not forgotten: if it does not come to its end, it still runs or
will run. -/
theorem stays_engaged (turn : standing.Turn keyOf occurrence next notices)
    (uncancelled : occurrence ≠ .cancelEdits) {ticket : Ticket} (mem : ticket ∈ standing.engaged) :
    ticket ∈ next.engaged ∨
      ∃ ending, ending ≠ .cancelled ∧ .ended ticket.number ending ∈ notices := by
  cases turn with
  | edit world => exact .inl mem
  | check world =>
      left
      rw [engaged, ← List.append_assoc]
      exact List.mem_append_left _ mem
  | wake =>
      left
      rw [engaged, ← List.append_assoc]
      exact List.mem_append_left _ mem
  | grant idle queue_eq =>
      left
      rw [engaged, idle, queue_eq] at mem
      exact mem
  | @ask other pass after task running launched =>
      rw [engaged_rerun running]
      exact .inl mem
  | @work _ other pass after running moved =>
      rw [engaged_rerun running]
      exact .inl mem
  | @finish other pass verdict running ends =>
      rw [engaged_running running] at mem
      rcases List.mem_cons.1 mem with rfl | mem
      · right
        rcases endings_cases standing.edits (pass.review keyOf) ticket verdict with
          ⟨progress, -, -, endings_eq⟩ | ⟨ending, uncancelled, endings_eq⟩
        · rw [endings_eq]
          exact ⟨.report _, Ending.noConfusion, List.mem_cons_of_mem _ List.mem_cons_self⟩
        · rw [endings_eq]
          exact ⟨ending, uncancelled, List.mem_cons_self⟩
      · exact .inl mem
  | cancelEdits => contradiction
  | rest unasked => exact .inl mem

/-- A pass that runs stays one that began with the cache of the session. -/
theorem begun {options : Options} (turn : standing.Turn keyOf occurrence next notices)
    (begun : standing.Begun keyOf options) : next.Begun keyOf options := by
  cases turn with
  | edit world | check world | wake => exact ⟨begun.options_eq, begun.running⟩
  | @grant ticket rest idle queue_eq =>
      refine ⟨begun.options_eq, ?_⟩
      intro other pass same
      obtain ⟨rfl, rfl⟩ := Prod.mk.inj (Option.some.inj same)
      rw [← begun.options_eq]
      exact .start
  | ask running launched => exact begun.rerun running fun reached => .launch reached launched
  | work running moved => exact begun.rerun running moved.reached
  | finish => exact ⟨begun.options_eq, by simp [Standing.finish]⟩
  | cancelEdits =>
      refine ⟨begun.options_eq, ?_⟩
      intro ticket pass same
      exact begun.running ticket pass (Option.filter_eq_some_iff.1 same).1
  | rest unasked => exact begun

end Turn
end Standing

namespace Session

variable {Key : Type} [DecidableEq Key] {keyOf : Text → String → Key} {session : Session Key}

theorem standing_edit (sound : session.Sound) (keyOf : Text → String → Key) (world : World) :
    (session.step keyOf (.edit world)).1.standing =
        { session.standing with
          tickets := session.standing.tickets + 1
          edits := session.standing.edits + 1
          sleeping := some (session.standing.issued world) } ∧
      (session.step keyOf (.edit world)).2 =
        cancelled (session.sleeping.toList.map Ticket.number) :=
  sound.standing_scheduled_cancelWaiting world

/-- A change of a session whose parts agree is a turn. -/
theorem Change.turn {next : Session Key} {occurrence : Occurrence} {notices : List Notice}
    (change : session.Change keyOf occurrence next notices) (sound : session.Sound) :
    session.standing.Turn keyOf occurrence next.standing notices := by
  have held {number : Nat} {ticket : Ticket} {pass : Pass Key}
      (stands : session.errands[number]? = some ⟨ticket, .running pass⟩) :
      ticket.number = number ∧ session.standing.running = some (ticket, pass) := by
    have number_eq := sound.tickets.number_eq number ticket _ stands
    exact ⟨number_eq, sound.running_eq_some_iff.2 (number_eq ▸ stands)⟩
  cases change with
  | edit world =>
      obtain ⟨standing_eq, notices_eq⟩ := sound.standing_scheduled_cancelWaiting world
      rw [standing_eq, notices_eq]
      exact .edit world
  | check world =>
      rw [sound.standing_enlisted]
      exact .check world
  | fire stands =>
      rw [sound.standing_fire stands]
      exact .rest rfl
  | wake stands =>
      rw [sound.standing_wake stands]
      exact .wake _
  | grant free waiters_eq stands =>
      obtain rfl := sound.queued_of_head waiters_eq stands
      obtain ⟨idle, queue_eq, standing_eq⟩ := sound.standing_grant waiters_eq stands free _
      rw [standing_eq]
      exact .grant idle queue_eq
  | ask stands launched =>
      obtain ⟨rfl, running⟩ := held stands
      rw [sound.standing_rerun stands]
      exact .ask running launched
  | work stands moved =>
      obtain ⟨rfl, running⟩ := held stands
      rw [sound.standing_rerun stands]
      exact .work running moved
  | finish stands ends =>
      obtain ⟨rfl, running⟩ := held stands
      rw [sound.standing_finish stands]
      exact .finish running ends
  | cancelEdits =>
      obtain ⟨standing_eq, notices_eq⟩ := sound.standing_cancelEdits
      rw [standing_eq, notices_eq]
      exact .cancelEdits sound.perm_liveEdits
  | rest unasked => exact .rest unasked

/-- Whatever happens to a session whose parts agree is a turn. -/
theorem turn_step (sound : session.Sound) (keyOf : Text → String → Key) (occurrence : Occurrence) :
    session.standing.Turn keyOf occurrence (session.step keyOf occurrence).1.standing
      (session.step keyOf occurrence).2 :=
  (session.change_step keyOf occurrence).turn sound

/-- Tickets whose pass runs or will run. -/
def engaged (session : Session Key) : List Ticket := session.standing.engaged

/-- The documents that a session is asked about, in the order in which tickets are numbered. -/
def asked (occurrences : List Occurrence) : List World := occurrences.filterMap Occurrence.world?

/-- The documents of the edits among some occurrences, in order. -/
def edited (occurrences : List Occurrence) : List World := occurrences.filterMap Occurrence.edited?

theorem edited_cons (occurrence : Occurrence) (rest : List Occurrence) :
    edited (occurrence :: rest) = occurrence.edited?.toList ++ edited rest := by
  rw [edited, List.filterMap_cons]
  cases occurrence.edited? <;> rfl

theorem edits_step (sound : session.Sound) (keyOf : Text → String → Key) (occurrence : Occurrence) :
    (session.step keyOf occurrence).1.edits = session.edits + occurrence.edited?.toList.length :=
  (turn_step sound keyOf occurrence).edits_eq

theorem tickets_step (sound : session.Sound) (keyOf : Text → String → Key)
    (occurrence : Occurrence) :
    (session.step keyOf occurrence).1.tickets =
      session.tickets + occurrence.world?.toList.length :=
  (turn_step sound keyOf occurrence).tickets_eq

theorem edits_run (sound : session.Sound) (keyOf : Text → String → Key)
    (occurrences : List Occurrence) :
    (session.run keyOf occurrences).1.edits = session.edits + (edited occurrences).length := by
  induction occurrences generalizing session with
  | nil => rfl
  | cons occurrence rest induction =>
      have rest_eq := induction (sound.step keyOf occurrence)
      rw [edits_step sound, Nat.add_assoc, ← List.length_append, ← edited_cons] at rest_eq
      exact rest_eq

theorem begun_run (sound : session.Sound) {options : Options}
    (begun : session.standing.Begun keyOf options) (occurrences : List Occurrence) :
    (session.run keyOf occurrences).1.standing.Begun keyOf options := by
  induction occurrences generalizing session with
  | nil => exact begun
  | cons occurrence rest induction =>
      exact induction (sound.step keyOf occurrence) ((turn_step sound keyOf occurrence).begun begun)

end Session
end ProseCheck
