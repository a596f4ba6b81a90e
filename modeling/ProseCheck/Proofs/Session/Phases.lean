import ProseCheck.Session.Basic

/-!
# Phases of errands

What a session keeps beside its errands agrees with how far they have come: the slot holds the one
errand that sleeps, the line those that wait for the lock, and the lock is held by the one whose
pass is under way.  No step asks for this; each keeps it, since it brings one errand to a phase and
changes what is kept of that errand along with it.  All that a step can do is said once, by
`Change`, and what a session keeps follows case by case.
-/

namespace ProseCheck

namespace Occurrence

/-- The document that an occurrence brings. -/
def world? : Occurrence → Option World
  | .edit world | .check world => some world
  | _ => none

/-- The document of an edit. -/
def edited? : Occurrence → Option World
  | .edit world => some world
  | _ => none

theorem edited?_eq_none {occurrence : Occurrence} (unasked : occurrence.world? = none) :
    occurrence.edited? = none := by
  cases occurrence with
  | edit world => contradiction
  | _ => rfl

end Occurrence

/-- What an occurrence makes of the pass of a running errand, where nobody sees it. -/
inductive Pass.Moved {Key : Type} [DecidableEq Key] (keyOf : Text → String → Key) (number : Nat)
    (pass : Pass Key) : Occurrence → Pass Key → Prop where
  | answer (place : Nat) (outcome : Outcome) :
      Moved keyOf number pass (.answer number place outcome) (pass.answer place outcome)
  | review : Moved keyOf number pass (.review number) (pass.review keyOf)
  | withdraw : Moved keyOf number pass (.withdraw number) pass.withdraw

theorem Pass.Moved.unasked {Key : Type} [DecidableEq Key] {keyOf : Text → String → Key}
    {number : Nat} {pass next : Pass Key} {occurrence : Occurrence}
    (moved : pass.Moved keyOf number occurrence next) : occurrence.world? = none := by
  cases moved <;> rfl

namespace Phase

variable {Key : Type} {phase : Phase Key}

theorem eq_done (done : phase.isDone = true) : phase = .done := by
  cases phase with
  | done => rfl
  | sleeping | roused | queued | running => contradiction

theorem isDone_of_asleep (asleep : phase.isAsleep = true) : phase.isDone = false := by
  cases phase with
  | sleeping | roused => rfl
  | queued | running | done => contradiction

theorem isQueued_of_asleep (asleep : phase.isAsleep = true) : phase.isQueued = false := by
  cases phase with
  | sleeping | roused => rfl
  | queued | running | done => contradiction

end Phase

namespace Session

variable {Key : Type} {session next : Session Key} {number other : Nat} {ticket : Ticket}
  {before phase : Phase Key} {kind : Phase Key → Bool}

theorem isAt_of_stands (stands : session.errands[number]? = some ⟨ticket, phase⟩) :
    session.isAt number kind = kind phase := by
  rw [isAt, stands, Option.any_some]

theorem exists_of_isAt (is_at : session.isAt number kind = true) :
    ∃ ticket phase, session.errands[number]? = some ⟨ticket, phase⟩ ∧ kind phase = true := by
  rw [isAt, Option.any_eq_true] at is_at
  obtain ⟨⟨ticket, phase⟩, stands, kind_eq⟩ := is_at
  exact ⟨ticket, phase, stands, kind_eq⟩

/-- No errand has the number of the next one. -/
theorem isAt_tickets (session : Session Key) : session.isAt session.tickets kind = false := by
  rw [isAt, tickets, List.getElem?_eq_none (Nat.le_refl _), Option.any_none]

/-- An errand that sleeps has not come to its end. -/
theorem not_done_of_asleep (asleep : session.isAt number Phase.isAsleep = true) :
    session.isAt number Phase.isDone = false := by
  obtain ⟨ticket, phase, stands, asleep⟩ := exists_of_isAt asleep
  rw [isAt_of_stands stands, Phase.isDone_of_asleep asleep]

/-- An errand, old or new, is now in a phase, and the others are as they were. -/
def Brings (session : Session Key) (number : Nat) (phase : Phase Key) (next : Session Key) : Prop :=
  ∀ other kind,
    next.isAt other kind = if other = number then kind phase else session.isAt other kind

theorem getElem?_move (stands : session.errands[number]? = some ⟨ticket, before⟩)
    (phase : Phase Key) (other : Nat) :
    (session.move number phase).errands[other]? =
      if other = number then some ⟨ticket, phase⟩ else session.errands[other]? := by
  rw [move, List.getElem?_modify]
  by_cases same : number = other
  · subst same
    simp [stands]
  · simp [same, Ne.symm same]

theorem brings_move (stands : session.errands[number]? = some ⟨ticket, before⟩)
    (errands_eq : next.errands = (session.move number phase).errands) :
    session.Brings number phase next := by
  intro other kind
  rw [isAt, errands_eq, getElem?_move stands]
  split
  · rfl
  · rfl

theorem getElem?_ask (session : Session Key) (edit : Option Nat) (world : World)
    (phase : Phase Key) (other : Nat) :
    (session.ask edit world phase).errands[other]? =
      if other = session.tickets then some ⟨⟨session.tickets, edit, world⟩, phase⟩
      else session.errands[other]? := by
  rw [ask, tickets]
  grind

theorem brings_ask {edit : Option Nat} {world : World}
    (errands_eq : next.errands = (session.ask edit world phase).errands) :
    session.Brings session.tickets phase next := by
  intro other kind
  rw [isAt, errands_eq, getElem?_ask]
  split
  · rfl
  · rfl

theorem cancel_of_done (stands : session.errands[number]? = some ⟨ticket, phase⟩)
    (done : phase.isDone = true) : session.cancel number = (session, []) := by
  rw [cancel, stands]
  exact if_pos done

theorem cancel_of_not_done (stands : session.errands[number]? = some ⟨ticket, phase⟩)
    (undone : phase.isDone = false) :
    session.cancel number =
      ({ session.move number .done with
          locked := session.locked && !phase.isRunning
          waiters := session.waiters.erase number }, [.ended number .cancelled]) := by
  rw [cancel, stands]
  exact if_neg (by rw [undone]; exact Bool.false_ne_true)

/-- No errand but the cancelled one changes. -/
theorem getElem?_cancel (differs : other ≠ number) :
    (session.cancel number).1.errands[other]? = session.errands[other]? := by
  rw [cancel]
  split
  · split
    · rfl
    · rename_i ticket phase stands undone
      exact (getElem?_move stands .done other).trans (if_neg differs)
  · rfl

/-- A cancelled errand comes to its end. -/
theorem brings_cancel (stands : session.errands[number]? = some ⟨ticket, phase⟩) :
    session.Brings number .done (session.cancel number).1 := by
  cases undone : phase.isDone with
  | true =>
      rw [cancel_of_done stands undone]
      obtain rfl := Phase.eq_done undone
      intro other kind
      split
      · rename_i same
        rw [same, isAt_of_stands stands]
      · rfl
  | false =>
      rw [cancel_of_not_done stands undone]
      exact brings_move stands rfl

/-! ## What can happen -/

section

variable [DecidableEq Key]

/-- What an occurrence makes of a session, errand by errand, and what others see of it. -/
inductive Change (keyOf : Text → String → Key) (session : Session Key) :
    Occurrence → Session Key → List Notice → Prop where
  | edit (world : World) :
      Change keyOf session (.edit world) (session.cancelWaiting.1.scheduled world)
        session.cancelWaiting.2
  | check (world : World) : Change keyOf session (.check world) (session.enlisted world) []
  | fire {number : Nat} {ticket : Ticket}
      (stands : session.errands[number]? = some ⟨ticket, .sleeping⟩) :
      Change keyOf session (.fire number) (session.move number .roused) []
  | wake {number : Nat} {ticket : Ticket}
      (stands : session.errands[number]? = some ⟨ticket, .roused⟩) :
      Change keyOf session (.wake number) (session.wakened number) []
  | grant {number : Nat} {rest : List Nat} {ticket : Ticket} {phase : Phase Key}
      (free : session.locked = false) (waiters_eq : session.waiters = number :: rest)
      (stands : session.errands[number]? = some ⟨ticket, phase⟩) :
      Change keyOf session .grant
        (session.granted number
          (.start keyOf (session.options.assignment ticket.world) session.cache)) []
  | ask {number : Nat} {ticket : Ticket} {pass next : Pass Key} {task : Task}
      (stands : session.errands[number]? = some ⟨ticket, .running pass⟩)
      (launched : pass.launch = some (task, next)) :
      Change keyOf session (.launch number) (session.move number (.running next))
        [.request task.place (next.assignment.request task.chunk)]
  | work {occurrence : Occurrence} {number : Nat} {ticket : Ticket} {pass next : Pass Key}
      (stands : session.errands[number]? = some ⟨ticket, .running pass⟩)
      (moved : pass.Moved keyOf number occurrence next) :
      Change keyOf session occurrence (session.move number (.running next)) []
  | finish {number : Nat} {ticket : Ticket} {pass : Pass Key}
      {verdict : Except Abortion (Progress Key)}
      (stands : session.errands[number]? = some ⟨ticket, .running pass⟩)
      (ends : (pass.review keyOf).verdict? = some verdict) :
      Change keyOf session (.review number) (session.finish number verdict)
        (endings session.edits (pass.review keyOf) ticket verdict)
  | cancelEdits :
      Change keyOf session .cancelEdits (session.cancelAll session.liveEdits).1
        (session.cancelAll session.liveEdits).2
  | rest {occurrence : Occurrence} (unasked : occurrence.world? = none) :
      Change keyOf session occurrence session []

/-- A step is a change. -/
theorem change_step (session : Session Key) (keyOf : Text → String → Key)
    (occurrence : Occurrence) :
    session.Change keyOf occurrence (session.step keyOf occurrence).1
      (session.step keyOf occurrence).2 := by
  cases occurrence with
  | edit world => exact .edit world
  | check world => exact .check world
  | fire number =>
      rw [step]
      split
      · rename_i stands
        exact .fire stands
      · exact .rest rfl
  | wake number =>
      rw [step]
      split
      · rename_i stands
        exact .wake stands
      · exact .rest rfl
  | grant =>
      rw [step]
      split
      · rename_i free waiters_eq
        split
        · rename_i stands
          exact .grant free waiters_eq stands
        · exact .rest rfl
      · exact .rest rfl
  | launch number =>
      rw [step]
      split
      · rename_i stands
        split
        · rename_i launched
          exact .ask stands launched
        · exact .rest rfl
      · exact .rest rfl
  | answer number place outcome =>
      rw [step]
      split
      · rename_i stands
        exact .work stands (.answer place outcome)
      · exact .rest rfl
  | review number =>
      rw [step]
      split
      · rename_i stands
        rw [reviewed]
        split
        · rename_i ends
          exact .finish stands ends
        · exact .work stands .review
      · exact .rest rfl
  | withdraw number =>
      rw [step]
      split
      · rename_i stands
        split
        · exact .work stands .withdraw
        · exact .rest rfl
      · exact .rest rfl
  | cancelEdits => exact .cancelEdits

end

/-! ## Tickets -/

/-- Every ticket has the number of its place, and only edits sleep. -/
structure TicketsHold (session : Session Key) : Prop where
  number_eq : ∀ (number : Nat) (ticket : Ticket) (phase : Phase Key),
    session.errands[number]? = some ⟨ticket, phase⟩ → ticket.number = number
  edit_of_asleep : ∀ (number : Nat) (ticket : Ticket) (phase : Phase Key),
    session.errands[number]? = some ⟨ticket, phase⟩ → phase.isAsleep = true →
      ticket.edit.isSome = true

namespace TicketsHold

theorem of_move (tickets : session.TicketsHold)
    (stands : session.errands[number]? = some ⟨ticket, before⟩)
    (errands_eq : next.errands = (session.move number phase).errands)
    (asleep : phase.isAsleep = true → before.isAsleep = true) : next.TicketsHold := by
  obtain ⟨number_eq, edit_of_asleep⟩ := tickets
  have after_eq := getElem?_move stands phase
  constructor
  · grind
  · grind

theorem of_ask (tickets : session.TicketsHold) {edit : Option Nat} {world : World}
    (errands_eq : next.errands = (session.ask edit world phase).errands)
    (asleep : phase.isAsleep = true → edit.isSome = true) : next.TicketsHold := by
  obtain ⟨number_eq, edit_of_asleep⟩ := tickets
  have after_eq := session.getElem?_ask edit world phase
  constructor
  · grind
  · grind

end TicketsHold

/-! ## The slot -/

/-- The slot holds the errand that sleeps; one that was cancelled there may be left in it. -/
structure SlotHolds (session : Session Key) : Prop where
  of_asleep : ∀ number, session.isAt number Phase.isAsleep = true → session.waiting = some number
  asleep_or_done : ∀ number, session.waiting = some number →
    session.isAt number Phase.isAsleep = true ∨ session.isAt number Phase.isDone = true

namespace SlotHolds

/-- The slot may stay as it is where no sleep begins, and none ends but by the end of the errand. -/
theorem of_brings (slot : session.SlotHolds) (brings : session.Brings number phase next)
    (same : next.waiting = session.waiting)
    (asleep : phase.isAsleep = true → session.isAt number Phase.isAsleep = true)
    (stays : session.isAt number Phase.isAsleep = true ∨ session.isAt number Phase.isDone = true →
      phase.isAsleep = true ∨ phase.isDone = true) : next.SlotHolds := by
  obtain ⟨of_asleep, asleep_or_done⟩ := slot
  unfold Brings at brings
  constructor
  · grind
  · grind

/-- An errand that goes on after its sleep finds itself in the slot and clears it. -/
theorem of_wake (slot : session.SlotHolds) (brings : session.Brings number .queued next)
    (asleep : session.isAt number Phase.isAsleep = true)
    (cleared : next.waiting = if session.waiting = some number then none else session.waiting) :
    next.SlotHolds := by
  rw [if_pos (slot.of_asleep number asleep)] at cleared
  constructor
  · intro other asleep_after
    rw [brings] at asleep_after
    split at asleep_after
    · contradiction
    · rename_i differs
      have in_slot := slot.of_asleep other asleep_after
      rw [slot.of_asleep number asleep, Option.some.injEq] at in_slot
      exact absurd in_slot.symm differs
  · intro other in_slot
    rw [cleared] at in_slot
    contradiction

/-- A new edit takes the slot once nothing sleeps. -/
theorem of_edit (idle : ∀ number, session.isAt number Phase.isAsleep = false)
    (brings : session.Brings number .sleeping next) (taken : next.waiting = some number) :
    next.SlotHolds := by
  have asleep_iff (other : Nat) :
      next.isAt other Phase.isAsleep = true ↔ next.waiting = some other := by
    rw [brings, taken, Option.some.injEq, idle]
    by_cases same : other = number
    · simp [same, Phase.isAsleep]
    · simp [same, Ne.symm same]
  exact ⟨fun other => (asleep_iff other).1,
    fun other in_slot => .inl ((asleep_iff other).2 in_slot)⟩

end SlotHolds

/-- The slot holds nothing but an errand that sleeps. -/
def SlotSleeps (session : Session Key) : Prop :=
  ∀ number, session.waiting = some number → session.isAt number Phase.isAsleep = true

theorem SlotSleeps.of_brings (sleeps : session.SlotSleeps)
    (brings : session.Brings number phase next) (same : next.waiting = session.waiting)
    (stays : session.isAt number Phase.isAsleep = true → phase.isAsleep = true) :
    next.SlotSleeps := by
  intro other in_slot
  rw [same] at in_slot
  have asleep := sleeps other in_slot
  rw [brings]
  split
  · rename_i same
    exact stays (same ▸ asleep)
  · exact asleep

/-! ## The line for the lock -/

/-- The line holds the errands that wait for the lock, each once. -/
structure LineHolds (session : Session Key) : Prop where
  nodup : session.waiters.Nodup
  mem_iff : ∀ number, number ∈ session.waiters ↔ session.isAt number Phase.isQueued = true

namespace LineHolds

theorem of_brings (line : session.LineHolds) (brings : session.Brings number phase next)
    (same : next.waiters = session.waiters)
    (queued : phase.isQueued = session.isAt number Phase.isQueued) : next.LineHolds := by
  obtain ⟨nodup, mem_iff⟩ := line
  unfold Brings at brings
  constructor
  · rwa [same]
  · grind

/-- An errand that asks for the lock goes to the end of the line. -/
theorem of_join (line : session.LineHolds) (brings : session.Brings number .queued next)
    (apart : session.isAt number Phase.isQueued = false)
    (joined : next.waiters = session.waiters ++ [number]) : next.LineHolds := by
  obtain ⟨nodup, mem_iff⟩ := line
  unfold Brings at brings
  have queued : (Phase.queued : Phase Key).isQueued = true := rfl
  constructor
  · grind
  · grind

/-- An errand that waits no more leaves the line. -/
theorem of_leave (line : session.LineHolds) (brings : session.Brings number phase next)
    (unqueued : phase.isQueued = false) (left : next.waiters = session.waiters.erase number) :
    next.LineHolds := by
  obtain ⟨nodup, mem_iff⟩ := line
  constructor
  · rw [left]
    exact nodup.erase number
  · intro other
    rw [left, nodup.mem_erase_iff, mem_iff, brings]
    grind

end LineHolds

/-! ## The lock -/

/-- The lock is held exactly if a pass is under way, and no two are. -/
structure LockHolds (session : Session Key) : Prop where
  locked_iff : session.locked = true ↔ ∃ number, session.isAt number Phase.isRunning = true
  alone : ∀ number other, session.isAt number Phase.isRunning = true →
    session.isAt other Phase.isRunning = true → number = other

namespace LockHolds

theorem of_brings (lock : session.LockHolds) (brings : session.Brings number phase next)
    (same : next.locked = session.locked)
    (running : phase.isRunning = session.isAt number Phase.isRunning) : next.LockHolds := by
  have same_at (other : Nat) :
      next.isAt other Phase.isRunning = session.isAt other Phase.isRunning := by
    rw [brings, running]
    split
    · rename_i same
      rw [same]
    · rfl
  constructor
  · simp only [same_at, same, lock.locked_iff]
  · simpa only [same_at] using lock.alone

/-- An errand that gets the free lock is the only one that holds it. -/
theorem of_acquire (lock : session.LockHolds) (brings : session.Brings number phase next)
    (free : session.locked = false) (locked : next.locked = true)
    (running : phase.isRunning = true) : next.LockHolds := by
  have running_iff (other : Nat) : next.isAt other Phase.isRunning = true ↔ other = number := by
    rw [brings]
    split
    · rename_i same
      exact ⟨fun _ => same, fun _ => running⟩
    · rename_i differs
      refine ⟨fun held => ?_, fun same => absurd same differs⟩
      rw [lock.locked_iff.2 ⟨other, held⟩] at free
      contradiction
  constructor
  · exact ⟨fun _ => ⟨number, (running_iff number).2 rfl⟩, fun _ => locked⟩
  · intro one other one_held other_held
    rw [(running_iff one).1 one_held, (running_iff other).1 other_held]

/-- An errand that held the lock frees it for all. -/
theorem of_release (lock : session.LockHolds) (brings : session.Brings number phase next)
    (held : session.isAt number Phase.isRunning = true) (free : next.locked = false)
    (ceased : phase.isRunning = false) : next.LockHolds := by
  have idle (other : Nat) : next.isAt other Phase.isRunning = false := by
    rw [brings]
    split
    · exact ceased
    · rename_i differs
      rw [Bool.eq_false_iff]
      intro running
      exact differs (lock.alone other number running held)
  constructor
  · simp [free, idle]
  · simp [idle]

end LockHolds

/-! ## All of it together -/

/-- What a session keeps agrees with the phases of its errands. -/
structure Sound (session : Session Key) : Prop where
  tickets : session.TicketsHold
  slot : session.SlotHolds
  line : session.LineHolds
  lock : session.LockHolds

theorem sound_start (options : Options) : (start options : Session Key).Sound where
  tickets := ⟨by simp [start], by simp [start]⟩
  slot := ⟨by simp [start, isAt], by simp [start]⟩
  line := ⟨List.nodup_nil, by simp [start, isAt]⟩
  lock := ⟨by simp [start, isAt], by simp [start, isAt]⟩

namespace Sound

/-- A cancelled errand takes with it what it had of the slot, the line and the lock. -/
theorem cancel (sound : session.Sound) (number : Nat) : (session.cancel number).1.Sound := by
  cases stands : session.errands[number]? with
  | none =>
      rw [Session.cancel, stands]
      exact sound
  | some errand =>
      obtain ⟨ticket, phase⟩ := errand
      cases undone : phase.isDone with
      | true =>
          rw [cancel_of_done stands undone]
          exact sound
      | false =>
          have brings := brings_cancel stands
          rw [cancel_of_not_done stands undone] at brings ⊢
          refine ⟨sound.tickets.of_move stands rfl (by simp [Phase.isAsleep]),
            sound.slot.of_brings brings rfl (by simp [Phase.isAsleep]) (fun _ => .inr rfl),
            sound.line.of_leave brings rfl rfl, ?_⟩
          have running_eq : session.isAt number Phase.isRunning = phase.isRunning :=
            isAt_of_stands stands
          cases running : phase.isRunning with
          | true =>
              exact sound.lock.of_release brings (by rw [running_eq, running]) (by simp) rfl
          | false =>
              exact sound.lock.of_brings brings (by simp) (by rw [running_eq, running]; rfl)

/-- Once the edit in the slot is cancelled, nothing sleeps. -/
theorem not_asleep_cancelWaiting (sound : session.Sound) (other : Nat) :
    session.cancelWaiting.1.isAt other Phase.isAsleep = false := by
  rw [Bool.eq_false_iff]
  intro asleep
  unfold cancelWaiting at asleep
  split at asleep
  · rename_i number in_slot
    split at asleep
    · rename_i done
      have same := sound.slot.of_asleep other asleep
      obtain rfl : number = other := Option.some.inj (in_slot.symm.trans same)
      rw [not_done_of_asleep asleep] at done
      contradiction
    · have known := sound.slot.asleep_or_done number in_slot
      obtain ⟨ticket, phase, stands⟩ : ∃ ticket phase,
          session.errands[number]? = some ⟨ticket, phase⟩ := by
        obtain asleep | done := known
        · obtain ⟨ticket, phase, stands, -⟩ := exists_of_isAt asleep
          exact ⟨ticket, phase, stands⟩
        · obtain ⟨ticket, phase, stands, -⟩ := exists_of_isAt done
          exact ⟨ticket, phase, stands⟩
      rw [brings_cancel stands] at asleep
      split at asleep
      · contradiction
      · rename_i differs
        have same := sound.slot.of_asleep other asleep
        exact differs (Option.some.inj (same.symm.trans in_slot))
  · rename_i free
    have same := sound.slot.of_asleep other asleep
    rw [free] at same
    contradiction

theorem cancelWaiting (sound : session.Sound) : session.cancelWaiting.1.Sound := by
  unfold Session.cancelWaiting
  split
  · split
    · exact sound
    · exact sound.cancel _
  · exact sound

theorem cancelAll (sound : session.Sound) (numbers : List Nat) :
    (session.cancelAll numbers).1.Sound := by
  induction numbers generalizing session with
  | nil => exact sound
  | cons number rest induction => exact induction (sound.cancel number)

/-- Another pass of the errand that holds the lock. -/
theorem rerun (sound : session.Sound) {pass : Pass Key}
    (stands : session.errands[number]? = some ⟨ticket, .running pass⟩) (after : Pass Key) :
    (session.move number (.running after)).Sound := by
  have brings : session.Brings number (.running after) (session.move number (.running after)) :=
    brings_move stands rfl
  have same_kind {kind : Phase Key → Bool} (blind : kind (.running after) = kind (.running pass)) :
      kind (.running after) = session.isAt number kind := by rw [isAt_of_stands stands, blind]
  refine ⟨sound.tickets.of_move stands rfl (by simp [Phase.isAsleep]),
    sound.slot.of_brings brings rfl (by simp [Phase.isAsleep]) ?_,
    sound.line.of_brings brings rfl (same_kind rfl),
    sound.lock.of_brings brings rfl (same_kind rfl)⟩
  rw [isAt_of_stands stands, isAt_of_stands stands]
  simp [Phase.isAsleep, Phase.isDone]

theorem finish (sound : session.Sound) {pass : Pass Key}
    (stands : session.errands[number]? = some ⟨ticket, .running pass⟩)
    (verdict : Except Abortion (Progress Key)) : (session.finish number verdict).Sound := by
  have brings : session.Brings number .done (session.finish number verdict) :=
    brings_move stands rfl
  refine ⟨sound.tickets.of_move stands rfl (by simp [Phase.isAsleep]),
    sound.slot.of_brings brings rfl (by simp [Phase.isAsleep]) (fun _ => .inr rfl),
    sound.line.of_brings brings rfl ?_, sound.lock.of_release brings ?_ rfl rfl⟩
  · rw [isAt_of_stands stands]
    rfl
  · rw [isAt_of_stands stands]
    rfl

/-- A new edit takes the slot of the one that is cancelled. -/
theorem schedule (sound : session.Sound)
    (idle : ∀ number, session.isAt number Phase.isAsleep = false) (world : World) :
    (session.scheduled world).Sound := by
  have brings : session.Brings session.tickets .sleeping (session.scheduled world) := brings_ask rfl
  refine ⟨sound.tickets.of_ask rfl (fun _ => rfl), .of_edit idle brings rfl,
    sound.line.of_brings brings rfl ?_, sound.lock.of_brings brings rfl ?_⟩
  · rw [isAt_tickets]
    rfl
  · rw [isAt_tickets]
    rfl

theorem edit (sound : session.Sound) (world : World) :
    (session.cancelWaiting.1.scheduled world).Sound :=
  sound.cancelWaiting.schedule sound.not_asleep_cancelWaiting world

/-- An edit leaves every errand as it is but the one that sleeps. -/
theorem getElem?_edit (sound : session.Sound) (world : World) {number : Nat}
    (known : number < session.tickets) (awake : session.isAt number Phase.isAsleep = false) :
    (session.cancelWaiting.1.scheduled world).errands[number]? = session.errands[number]? := by
  have kept : session.cancelWaiting.1.errands[number]? = session.errands[number]? := by
    rw [Session.cancelWaiting]
    split
    · rename_i other in_slot
      split
      · rfl
      · rename_i undone
        refine getElem?_cancel ?_
        rintro rfl
        have asleep := (sound.slot.asleep_or_done number in_slot).resolve_right undone
        rw [awake] at asleep
        contradiction
    · rfl
  have known_then : number < session.cancelWaiting.1.tickets := by
    have stands := List.getElem?_eq_getElem known
    exact (List.getElem?_eq_some_iff.1 (kept.trans stands)).1
  exact (getElem?_ask _ _ world .sleeping number).trans
    ((if_neg (Nat.ne_of_lt known_then)).trans kept)

/-- A check that is asked for goes to the end of the line. -/
theorem check (sound : session.Sound) (world : World) : (session.enlisted world).Sound := by
  have brings : session.Brings session.tickets .queued (session.enlisted world) := brings_ask rfl
  refine ⟨sound.tickets.of_ask rfl (by simp [Phase.isAsleep]),
    sound.slot.of_brings brings rfl (by simp [Phase.isAsleep]) ?_,
    sound.line.of_join brings (isAt_tickets session) rfl, sound.lock.of_brings brings rfl ?_⟩
  · simp [isAt_tickets]
  · rw [isAt_tickets]
    rfl

theorem fire (sound : session.Sound)
    (stands : session.errands[number]? = some ⟨ticket, .sleeping⟩) :
    (session.move number .roused).Sound := by
  have brings : session.Brings number .roused (session.move number .roused) :=
    brings_move stands rfl
  refine ⟨sound.tickets.of_move stands rfl (fun _ => rfl),
    sound.slot.of_brings brings rfl (fun _ => isAt_of_stands stands) (fun _ => .inl rfl),
    sound.line.of_brings brings rfl ?_, sound.lock.of_brings brings rfl ?_⟩
  · rw [isAt_of_stands stands]
    rfl
  · rw [isAt_of_stands stands]
    rfl

theorem wake (sound : session.Sound)
    (stands : session.errands[number]? = some ⟨ticket, .roused⟩) :
    (session.wakened number).Sound := by
  have brings : session.Brings number .queued (session.wakened number) := brings_move stands rfl
  refine ⟨sound.tickets.of_move stands rfl (by simp [Phase.isAsleep]),
    sound.slot.of_wake brings (isAt_of_stands stands) rfl,
    sound.line.of_join brings (isAt_of_stands stands) rfl, sound.lock.of_brings brings rfl ?_⟩
  rw [isAt_of_stands stands]
  rfl

/-- The first errand in line gets the free lock. -/
theorem grant (sound : session.Sound)
    (stands : session.errands[number]? = some ⟨ticket, .queued⟩)
    (free : session.locked = false) (pass : Pass Key) : (session.granted number pass).Sound := by
  have brings : session.Brings number (.running pass) (session.granted number pass) :=
    brings_move stands rfl
  refine ⟨sound.tickets.of_move stands rfl (by simp [Phase.isAsleep]),
    sound.slot.of_brings brings rfl (by simp [Phase.isAsleep]) ?_,
    sound.line.of_leave brings rfl rfl, sound.lock.of_acquire brings free rfl rfl⟩
  rw [isAt_of_stands stands, isAt_of_stands stands]
  simp [Phase.isAsleep, Phase.isDone]

/-- The errand at the head of the line waits for the lock. -/
theorem queued_of_head (sound : session.Sound) {rest : List Nat}
    (waiters_eq : session.waiters = number :: rest)
    (stands : session.errands[number]? = some ⟨ticket, phase⟩) : phase = .queued := by
  have first : number ∈ session.waiters := waiters_eq ▸ List.mem_cons_self
  have queued := (sound.line.mem_iff number).1 first
  rw [isAt_of_stands stands] at queued
  cases phase with
  | queued => rfl
  | sleeping | roused | running | done => contradiction

variable [DecidableEq Key] {keyOf : Text → String → Key} {occurrence : Occurrence}
  {notices : List Notice}

/-- Whatever happens to a session, what it keeps agrees with the phases of its errands. -/
theorem change (sound : session.Sound) (change : session.Change keyOf occurrence next notices) :
    next.Sound := by
  cases change with
  | edit world => exact sound.edit world
  | check world => exact sound.check world
  | fire stands => exact sound.fire stands
  | wake stands => exact sound.wake stands
  | grant free waiters_eq stands =>
      obtain rfl := sound.queued_of_head waiters_eq stands
      exact sound.grant stands free _
  | ask stands launched => exact sound.rerun stands _
  | work stands moved => exact sound.rerun stands _
  | finish stands ends => exact sound.finish stands _
  | cancelEdits => exact sound.cancelAll _
  | rest unasked => exact sound

theorem step (sound : session.Sound) (keyOf : Text → String → Key) (occurrence : Occurrence) :
    (session.step keyOf occurrence).1.Sound :=
  sound.change (session.change_step keyOf occurrence)

theorem run (sound : session.Sound) (keyOf : Text → String → Key)
    (occurrences : List Occurrence) :
    (session.run keyOf occurrences).1.Sound := by
  induction occurrences generalizing session with
  | nil => exact sound
  | cons occurrence rest induction => exact induction (sound.step keyOf occurrence)

end Sound

theorem slotSleeps_start (options : Options) : (start options : Session Key).SlotSleeps := by
  intro number in_slot
  contradiction

namespace SlotSleeps

variable [DecidableEq Key] {keyOf : Text → String → Key} {occurrence : Occurrence}
  {notices : List Notice}

/-- Short of the end of all edits, an errand leaves the slot before it is done. -/
theorem change (sleeps : session.SlotSleeps) (sound : session.Sound)
    (change : session.Change keyOf occurrence next notices) (goes_on : occurrence ≠ .cancelEdits) :
    next.SlotSleeps := by
  have awake {number : Nat} {ticket : Ticket} {phase after : Phase Key}
      (stands : session.errands[number]? = some ⟨ticket, phase⟩)
      (is_awake : phase.isAsleep = false) :
      session.isAt number Phase.isAsleep = true → after.isAsleep = true := by
    rw [isAt_of_stands stands, is_awake]
    exact fun asleep => absurd asleep Bool.false_ne_true
  cases change with
  | edit world =>
      have brings : session.cancelWaiting.1.Brings session.cancelWaiting.1.tickets .sleeping
          (session.cancelWaiting.1.scheduled world) := brings_ask rfl
      intro number in_slot
      obtain rfl := Option.some.inj in_slot
      exact (brings session.cancelWaiting.1.tickets Phase.isAsleep).trans (if_pos rfl)
  | check world =>
      have brings : session.Brings session.tickets .queued (session.enlisted world) :=
        brings_ask rfl
      refine sleeps.of_brings brings rfl fun asleep => ?_
      rw [isAt_tickets] at asleep
      contradiction
  | fire stands => exact sleeps.of_brings (brings_move stands rfl) rfl fun _ => rfl
  | wake stands =>
      have here := sound.slot.of_asleep _ (isAt_of_stands stands)
      intro other in_slot
      rw [wakened, if_pos here] at in_slot
      contradiction
  | grant free waiters_eq stands =>
      obtain rfl := sound.queued_of_head waiters_eq stands
      exact sleeps.of_brings (brings_move stands rfl) rfl (awake stands rfl)
  | ask stands launched => exact sleeps.of_brings (brings_move stands rfl) rfl (awake stands rfl)
  | work stands moved => exact sleeps.of_brings (brings_move stands rfl) rfl (awake stands rfl)
  | finish stands ends => exact sleeps.of_brings (brings_move stands rfl) rfl (awake stands rfl)
  | cancelEdits => contradiction
  | rest unasked => exact sleeps

theorem run (sleeps : session.SlotSleeps) (sound : session.Sound) (keyOf : Text → String → Key)
    {occurrences : List Occurrence} (unclosed : .cancelEdits ∉ occurrences) :
    (session.run keyOf occurrences).1.SlotSleeps := by
  induction occurrences generalizing session with
  | nil => exact sleeps
  | cons occurrence rest induction =>
      obtain ⟨goes_on, rest_goes_on⟩ := not_or.1 fun closes => unclosed (List.mem_cons.2 closes)
      exact induction (sleeps.change sound (session.change_step keyOf occurrence) (Ne.symm goes_on))
        (sound.step keyOf occurrence) rest_goes_on

end SlotSleeps
end Session
end ProseCheck
