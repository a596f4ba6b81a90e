import Mathlib.Data.List.Perm.Basic
import ProseCheck.Proofs.Session.Overtaking

/-!
# Ends of tickets

Every ticket of a session is pending or has come to one end: the numbers of the tickets that have
ended and of those that are pending are the numbers given out so far, each once.  So no ticket is
cancelled whose pass runs or will run, unless all edits are.
-/

namespace ProseCheck

/-- The ticket that comes to its end. -/
def Notice.ended? : Notice → Option Nat
  | .ended number _ => some number
  | .request _ _ | .delivered _ _ => none

namespace Standing

open Session

variable {Key : Type}

/-- All cancelled tickets come to their end. -/
theorem ended_cancelled (numbers : List Nat) :
    (cancelled numbers).filterMap Notice.ended? = numbers := by
  rw [cancelled, List.filterMap_map]
  exact List.filterMap_some

/-- The end of a pass is that of its ticket. -/
theorem ended_endings (edits : Nat) (pass : Pass Key) (ticket : Ticket)
    (verdict : Except Abortion (Progress Key)) :
    (endings edits pass ticket verdict).filterMap Notice.ended? = [ticket.number] := by
  rcases endings_cases edits pass ticket verdict with
    ⟨progress, -, -, endings_eq⟩ | ⟨ending, -, endings_eq⟩
  · rw [endings_eq]
    rfl
  · rw [endings_eq]
    rfl

theorem pending_finish {standing : Standing Key} {ticket : Ticket} {pass : Pass Key}
    (running : standing.running = some (ticket, pass)) (verdict : Except Abortion (Progress Key)) :
    standing.pending = ticket :: (standing.finish verdict).pending := by
  rw [pending, engaged_running running]
  rfl

/-- The tickets of edits and the others are all tickets. -/
theorem perm_edits (tickets : List Ticket) :
    (tickets.filter (fun ticket => ticket.edit.isSome) ++
      tickets.filter fun ticket => ticket.edit.isNone).Perm tickets := by
  have others : (fun ticket : Ticket => ticket.edit.isNone) =
      fun ticket => !ticket.edit.isSome := by
    funext ticket
    cases ticket.edit <;> rfl
  rw [others]
  exact List.filter_append_perm _ tickets

theorem pending_withoutEdits (standing : Standing Key) :
    standing.withoutEdits.pending = standing.pending.filter fun ticket => ticket.edit.isNone := by
  simp [pending, engaged, withoutEdits, Option.toList_filter, List.filter_map, Function.comp_def]

/-- Of the pending tickets, those of edits end and the others stay. -/
theorem perm_withoutEdits (standing : Standing Key) :
    ((standing.pending.filter fun ticket => ticket.edit.isSome).map Ticket.number ++
      standing.withoutEdits.pending.map Ticket.number).Perm
        (standing.pending.map Ticket.number) := by
  rw [pending_withoutEdits, ← List.map_append]
  exact (perm_edits standing.pending).map Ticket.number

variable [DecidableEq Key] {keyOf : Text → String → Key} {standing next : Standing Key}
  {occurrence : Occurrence} {notices : List Notice}

namespace Turn

/-- A turn ends tickets that were pending, and those that it gives out are pending from then on. -/
theorem perm_numbers (turn : standing.Turn keyOf occurrence next notices) :
    (notices.filterMap Notice.ended? ++ next.pending.map Ticket.number).Perm
      (standing.pending.map Ticket.number ++
        List.range' standing.tickets occurrence.world?.toList.length) := by
  cases turn with
  | edit world =>
      rw [ended_cancelled, pending, pending, List.map_append, List.map_append, ← List.append_assoc]
      exact List.perm_append_comm.append_right _
  | check world =>
      rw [List.perm_iff_count]
      intro number
      simp [pending, engaged, Occurrence.world?, List.count_cons]
  | wake => simp [pending, engaged, Occurrence.world?]
  | grant idle queue_eq => simp [pending, engaged, idle, queue_eq, Occurrence.world?]
  | @ask ticket pass after task running launched =>
      rw [pending, engaged_rerun running, ← pending]
      exact List.Perm.of_eq (List.append_nil _).symm
  | @work _ ticket pass after running moved =>
      rw [pending, engaged_rerun running, ← pending, moved.unasked]
      exact List.Perm.of_eq (List.append_nil _).symm
  | @finish ticket pass verdict running ends =>
      rw [ended_endings, pending_finish running verdict]
      exact List.Perm.of_eq (List.append_nil _).symm
  | cancelEdits perm =>
      rw [ended_cancelled]
      refine (perm.append_right _).trans ((perm_withoutEdits standing).trans ?_)
      exact List.Perm.of_eq (List.append_nil _).symm
  | rest unasked =>
      rw [unasked]
      exact List.Perm.of_eq (List.append_nil _).symm

/-- Short of the end of all edits, another edit alone cancels, and only the edit that sleeps. -/
theorem of_cancelled (turn : standing.Turn keyOf occurrence next notices)
    (goes_on : occurrence ≠ .cancelEdits) {number : Nat}
    (mem : .ended number .cancelled ∈ notices) :
    (∃ world, occurrence = .edit world) ∧
      ∃ ticket, standing.sleeping = some ticket ∧ ticket.number = number := by
  cases turn with
  | edit world =>
      obtain ⟨_, number_mem, ended⟩ := List.mem_map.1 mem
      obtain ⟨ticket, sleeps, rfl⟩ := List.mem_map.1 number_mem
      exact ⟨⟨world, rfl⟩, ticket, Option.mem_toList.1 sleeps, (Notice.ended.inj ended).1⟩
  | check world | wake | grant | ask | work | rest => simp at mem
  | @finish ticket pass verdict running ends =>
      rcases endings_cases standing.edits (pass.review keyOf) ticket verdict with
        ⟨progress, -, -, endings_eq⟩ | ⟨ending, runs_out, endings_eq⟩
      · simp [endings_eq] at mem
      · rw [endings_eq, List.mem_singleton, Notice.ended.injEq] at mem
        exact absurd mem.2.symm runs_out
  | cancelEdits => contradiction

end Turn

end Standing

namespace Session

variable {Key : Type} [DecidableEq Key] {keyOf : Text → String → Key} {session : Session Key}

theorem run_cons (keyOf : Text → String → Key) (session : Session Key) (occurrence : Occurrence)
    (rest : List Occurrence) :
    session.run keyOf (occurrence :: rest) =
      (((session.step keyOf occurrence).1.run keyOf rest).1,
        (session.step keyOf occurrence).2 ++
          ((session.step keyOf occurrence).1.run keyOf rest).2) :=
  rfl

theorem run_append (keyOf : Text → String → Key) (session : Session Key)
    (before after : List Occurrence) :
    session.run keyOf (before ++ after) =
      (((session.run keyOf before).1.run keyOf after).1,
        (session.run keyOf before).2 ++ ((session.run keyOf before).1.run keyOf after).2) := by
  induction before generalizing session with
  | nil => rfl
  | cons occurrence rest induction =>
      rw [List.cons_append, run_cons, run_cons, induction, List.append_assoc]

/-- What others see of a run, they see of one of its steps. -/
theorem exists_step_of_mem_run {occurrences : List Occurrence} {notice : Notice}
    (mem : notice ∈ (session.run keyOf occurrences).2) :
    ∃ before occurrence after, occurrences = before ++ occurrence :: after ∧
      notice ∈ ((session.run keyOf before).1.step keyOf occurrence).2 := by
  induction occurrences generalizing session with
  | nil => contradiction
  | cons occurrence rest induction =>
      rw [run_cons] at mem
      rcases List.mem_append.1 mem with mem | mem
      · exact ⟨[], occurrence, rest, rfl, mem⟩
      · obtain ⟨before, later, after, rest_eq, mem⟩ := induction mem
        exact ⟨occurrence :: before, later, after, by rw [rest_eq, List.cons_append], mem⟩

/-- Tickets that were pending or were given out since have ended or are pending. -/
theorem perm_numbers_run (sound : session.Sound) (keyOf : Text → String → Key)
    (occurrences : List Occurrence) :
    ((session.run keyOf occurrences).2.filterMap Notice.ended? ++
        (session.run keyOf occurrences).1.standing.pending.map Ticket.number).Perm
      (session.standing.pending.map Ticket.number ++
        List.range' session.tickets (asked occurrences).length) := by
  induction occurrences generalizing session with
  | nil => exact List.Perm.of_eq (List.append_nil _).symm
  | cons occurrence rest induction =>
      have turned := (turn_step sound keyOf occurrence).perm_numbers
      have rest_perm := induction (sound.step keyOf occurrence)
      have asked_eq : (asked (occurrence :: rest)).length =
          occurrence.world?.toList.length + (asked rest).length := by
        rw [asked, List.filterMap_cons, asked]
        cases occurrence.world? with
        | none => exact (Nat.zero_add _).symm
        | some world => exact Nat.add_comm _ _
      rw [tickets_step sound] at rest_perm
      rw [run_cons, List.filterMap_append, List.append_assoc]
      refine (rest_perm.append_left _).trans ?_
      rw [asked_eq, ← List.range'_append_1, ← List.append_assoc, ← List.append_assoc]
      exact turned.append_right _

section

variable (keyOf : Text → String → Key) (options : Options)

/-- No ticket of a session comes to two ends, or to one and is pending. -/
theorem nodup_numbers (occurrences : List Occurrence) :
    (((start options).run keyOf occurrences).2.filterMap Notice.ended? ++
      ((start options).run keyOf occurrences).1.standing.pending.map Ticket.number).Nodup := by
  refine (perm_numbers_run (sound_start options) keyOf occurrences).nodup_iff.2 ?_
  exact List.nodup_range'

/-- The edit that sleeps is none of the tickets whose pass runs or will run. -/
theorem number_ne_of_sleeping {occurrences : List Occurrence} {ticket other : Ticket}
    (mem : ticket ∈ ((start options).run keyOf occurrences).1.engaged)
    (sleeps : ((start options).run keyOf occurrences).1.sleeping = some other) :
    ticket.number ≠ other.number := by
  have sound := (sound_start options : (start options : Session Key).Sound).run keyOf occurrences
  have distinct := sound.nodup_pending
  rw [Standing.pending, List.map_append] at distinct
  exact (List.nodup_append.1 distinct).2.2 _ (List.mem_map_of_mem mem) _
    (List.mem_map_of_mem (Option.mem_toList.2 sleeps))

/-- A ticket that is pending has not come to an end. -/
theorem not_ended_of_pending {occurrences : List Occurrence} {ticket : Ticket}
    (mem : ticket ∈ ((start options).run keyOf occurrences).1.standing.pending) (ending : Ending) :
    .ended ticket.number ending ∉ ((start options).run keyOf occurrences).2 := by
  intro ended
  have apart := (List.nodup_append.1 (nodup_numbers keyOf options occurrences)).2.2
  exact apart _ (List.mem_filterMap.2 ⟨_, ended, rfl⟩) _ (List.mem_map_of_mem mem) rfl

/-- A ticket whose pass runs or will run is not cancelled, neither before nor after. -/
theorem not_cancelled_of_engaged {before after : List Occurrence}
    (unclosed : .cancelEdits ∉ before ++ after) {ticket : Ticket}
    (mem : ticket ∈ ((start options).run keyOf before).1.engaged) :
    .ended ticket.number .cancelled ∉ ((start options).run keyOf (before ++ after)).2 := by
  have sound := (sound_start options : (start options : Session Key).Sound).run keyOf before
  rw [run_append]
  intro cancels
  rcases List.mem_append.1 cancels with cancels | cancels
  · exact not_ended_of_pending keyOf options (List.mem_append_left _ mem) _ cancels
  · obtain ⟨between, occurrence, rest, rfl, cancels_then⟩ := exists_step_of_mem_run cancels
    have goes_on : occurrence ≠ .cancelEdits := by
      rintro rfl
      exact unclosed (by simp)
    obtain ⟨-, other, sleeps, same⟩ :=
      (turn_step (sound.run keyOf between) keyOf occurrence).of_cancelled goes_on cancels_then
    have later_eq := congrArg Prod.fst (run_append keyOf (start options) before between)
    have notices_eq := congrArg Prod.snd (run_append keyOf (start options) before between)
    simp only at later_eq notices_eq
    rw [← later_eq] at sleeps
    have between_unclosed : .cancelEdits ∉ between := fun closes => unclosed (by simp [closes])
    -- By then the ticket still runs or will run, or it has come to another end.
    rcases engaged_run sound between_unclosed mem with
      mem | ⟨ending, -, ended⟩
    · rw [← later_eq] at mem
      exact number_ne_of_sleeping keyOf options mem sleeps same.symm
    · have pends : other ∈ ((start options).run keyOf (before ++ between)).1.standing.pending :=
        List.mem_append_right _ (Option.mem_toList.2 sleeps)
      refine not_ended_of_pending keyOf options pends ending ?_
      rw [notices_eq, same]
      exact List.mem_append_right _ ended

end

end Session
end ProseCheck
