import Mathlib.Data.List.Basic
import ProseCheck.Proofs.Session.Phases

/-!
# Where a session stands

What a session does can mostly be told without its errands: which edit sleeps, which tickets wait
for the lock, and whose pass is under way.  Where the parts of a session agree, each of these is
read off the errand that a ticket is numbered by.
-/

namespace ProseCheck

/-- What there is to a session beside the phases of its errands. -/
@[ext]
structure Standing (Key : Type) where
  /-- Options of all passes. -/
  options : Options
  /-- Number of tickets so far. -/
  tickets : Nat
  /-- Number of edits so far. -/
  edits : Nat
  /-- The edit that sleeps. -/
  sleeping : Option Ticket
  /-- Tickets that wait for the lock, the oldest first. -/
  queue : List Ticket
  /-- The ticket whose pass is under way, and the pass. -/
  running : Option (Ticket × Pass Key)
  /-- Cache of the last pass that succeeded. -/
  cache : Cache Key

namespace Standing

variable {Key : Type}

/-- What is left when tickets are taken away. -/
def without (standing : Standing Key) (numbers : List Nat) : Standing Key :=
  { standing with
    sleeping := standing.sleeping.filter fun ticket => ticket.number ∉ numbers
    queue := standing.queue.filter fun ticket => ticket.number ∉ numbers
    running := standing.running.filter fun (ticket, _) => ticket.number ∉ numbers }

/-- What is left once all edits are cancelled. -/
def withoutEdits (standing : Standing Key) : Standing Key :=
  { standing with
    sleeping := standing.sleeping.filter fun ticket => ticket.edit.isNone
    queue := standing.queue.filter fun ticket => ticket.edit.isNone
    running := standing.running.filter fun (ticket, _) => ticket.edit.isNone }

/-- What is left after the end of the pass: one that succeeded leaves its cache. -/
def finish (standing : Standing Key) (verdict : Except Abortion (Progress Key)) : Standing Key :=
  { standing with
    running := none
    cache :=
      match verdict with
      | .ok progress => progress.cache
      | .error _ => standing.cache }

/-- Tickets whose pass runs or will run. -/
def engaged (standing : Standing Key) : List Ticket :=
  standing.running.toList.map Prod.fst ++ standing.queue

/-- The ticket of an edit that comes now. -/
def issued (standing : Standing Key) (world : World) : Ticket :=
  ⟨standing.tickets, some (standing.edits + 1), world⟩

/-- Tickets that have not come to an end. -/
def pending (standing : Standing Key) : List Ticket :=
  standing.engaged ++ standing.sleeping.toList

theorem without_nil (standing : Standing Key) : standing.without [] = standing := by
  obtain ⟨options, tickets, edits, sleeping, queue, running, cache⟩ := standing
  cases sleeping <;> cases running <;> simp [without, Option.filter]

theorem without_cons (standing : Standing Key) (number : Nat) (rest : List Nat) :
    (standing.without [number]).without rest = standing.without (number :: rest) := by
  simp [without, Option.filter_filter, List.filter_filter, Bool.and_comm]

end Standing

/-- Where one element alone is mapped to something, that is what is found. -/
theorem findSome?_eq_some_iff_of_alone {α β : Type} {f : α → Option β} {list : List α}
    (alone : ∀ (i j : Nat) first second, list[i]? = some first → list[j]? = some second →
      (f first).isSome = true → (f second).isSome = true → i = j) {found : β} :
    list.findSome? f = some found ↔
      ∃ (i : Nat) (element : α), list[i]? = some element ∧ f element = some found := by
  constructor
  · intro finds
    obtain ⟨element, mem, element_eq⟩ := List.exists_of_findSome?_eq_some finds
    obtain ⟨i, stands⟩ := List.mem_iff_getElem?.1 mem
    exact ⟨i, element, stands, element_eq⟩
  · rintro ⟨i, element, stands, element_eq⟩
    obtain ⟨other, finds⟩ : ∃ other, list.findSome? f = some other := by
      rw [← Option.isSome_iff_exists, List.findSome?_isSome_iff]
      exact ⟨element, List.mem_of_getElem? stands, by rw [element_eq]; rfl⟩
    obtain ⟨second, mem, second_eq⟩ := List.exists_of_findSome?_eq_some finds
    obtain ⟨j, second_stands⟩ := List.mem_iff_getElem?.1 mem
    obtain rfl := alone i j element second stands second_stands (by rw [element_eq]; rfl)
      (by rw [second_eq]; rfl)
    rw [stands, Option.some.injEq] at second_stands
    rw [finds, ← second_eq, ← second_stands, element_eq]

namespace Session

/-- Tickets come to their end because they are cancelled. -/
def cancelled (numbers : List Nat) : List Notice :=
  numbers.map fun number => .ended number .cancelled

variable {Key : Type} {session next : Session Key} {number : Nat} {ticket : Ticket}
  {before phase : Phase Key}

/-- Where a session stands. -/
def standing (session : Session Key) : Standing Key where
  options := session.options
  tickets := session.tickets
  edits := session.edits
  sleeping := session.sleeping
  queue := session.queue
  running := session.running
  cache := session.cache

namespace Sound

/-- The errand of the edit that sleeps is asleep. -/
theorem sleeping_eq_some_iff (sound : session.Sound) : session.sleeping = some ticket ↔
    ∃ phase, session.errands[ticket.number]? = some ⟨ticket, phase⟩ ∧ phase.isAsleep = true := by
  have asleep_of {i : Nat} {errand : Errand Key} (stands : session.errands[i]? = some errand)
      (found : errand.sleeper?.isSome = true) : session.isAt i Phase.isAsleep = true := by
    rw [isAt, stands, Option.any_some]
    simpa [Errand.sleeper?] using found
  rw [sleeping, findSome?_eq_some_iff_of_alone]
  · constructor
    · rintro ⟨i, ⟨found, phase⟩, stands, found_eq⟩
      obtain ⟨asleep, same⟩ := Option.ite_none_right_eq_some.1 found_eq
      obtain rfl := Option.some.inj same
      exact ⟨phase, by rw [sound.tickets.number_eq i _ _ stands, stands], asleep⟩
    · rintro ⟨phase, stands, asleep⟩
      exact ⟨_, _, stands, if_pos asleep⟩
  · intro i j first second first_stands second_stands first_found second_found
    have first_slot := sound.slot.of_asleep i (asleep_of first_stands first_found)
    have second_slot := sound.slot.of_asleep j (asleep_of second_stands second_found)
    exact Option.some.inj (first_slot.symm.trans second_slot)

theorem asleep_iff (sound : session.Sound) : session.isAt number Phase.isAsleep = true ↔
    ∃ ticket, session.sleeping = some ticket ∧ ticket.number = number := by
  constructor
  · intro asleep_there
    obtain ⟨ticket, phase, stands, asleep⟩ := exists_of_isAt asleep_there
    obtain rfl := sound.tickets.number_eq number ticket phase stands
    exact ⟨ticket, sound.sleeping_eq_some_iff.2 ⟨phase, stands, asleep⟩, rfl⟩
  · rintro ⟨ticket, sleeps, rfl⟩
    obtain ⟨phase, stands, asleep⟩ := sound.sleeping_eq_some_iff.1 sleeps
    rw [isAt_of_stands stands, asleep]

/-- The errand of the ticket whose pass is under way holds the lock with that pass. -/
theorem running_eq_some_iff (sound : session.Sound) {pass : Pass Key} :
    session.running = some (ticket, pass) ↔
      session.errands[ticket.number]? = some ⟨ticket, .running pass⟩ := by
  have running_of {i : Nat} {errand : Errand Key} (stands : session.errands[i]? = some errand)
      (found : errand.run?.isSome = true) : session.isAt i Phase.isRunning = true := by
    rw [isAt, stands, Option.any_some]
    simpa [Errand.run?, Phase.isRunning] using found
  rw [running, findSome?_eq_some_iff_of_alone]
  · constructor
    · rintro ⟨i, ⟨found, phase⟩, stands, found_eq⟩
      obtain ⟨other, pass_eq, same⟩ := Option.map_eq_some_iff.1 found_eq
      obtain ⟨rfl, rfl⟩ := Prod.mk.inj same
      cases phase with
      | running after =>
          obtain rfl := Option.some.inj pass_eq
          rw [sound.tickets.number_eq i _ _ stands, stands]
      | sleeping | roused | queued | done => contradiction
    · intro stands
      exact ⟨_, _, stands, rfl⟩
  · intro i j first second first_stands second_stands first_found second_found
    exact sound.lock.alone i j (running_of first_stands first_found)
      (running_of second_stands second_found)

/-- The errands of the tickets in the queue wait for the lock. -/
theorem mem_queue_iff (sound : session.Sound) : ticket ∈ session.queue ↔
    session.errands[ticket.number]? = some ⟨ticket, .queued⟩ := by
  rw [queue, List.mem_filterMap]
  constructor
  · rintro ⟨number, waits, ticket_eq⟩
    obtain ⟨other, phase, stands, queued⟩ := exists_of_isAt ((sound.line.mem_iff number).1 waits)
    rw [stands] at ticket_eq
    obtain rfl := Option.some.inj ticket_eq
    cases phase with
    | queued => rw [sound.tickets.number_eq number _ _ stands, stands]
    | sleeping | roused | running | done => contradiction
  · intro stands
    refine ⟨ticket.number, (sound.line.mem_iff _).2 ?_, by rw [stands]; rfl⟩
    rw [isAt_of_stands stands]
    rfl

/-! ## One errand moves -/

/-- An errand that sleeps as little or as much as before is the only one that moves. -/
theorem sleeping_of_move (sound : session.Sound) (sound_next : next.Sound)
    (stands : session.errands[number]? = some ⟨ticket, before⟩)
    (errands_eq : next.errands = (session.move number phase).errands)
    (same : phase.isAsleep = before.isAsleep) : next.sleeping = session.sleeping := by
  ext other
  rw [sound_next.sleeping_eq_some_iff, sound.sleeping_eq_some_iff, errands_eq]
  simp only [getElem?_move stands]
  grind

/-- An errand that does not sleep any more is no longer the edit that sleeps. -/
theorem sleeping_of_leave (sound : session.Sound) (sound_next : next.Sound)
    (stands : session.errands[number]? = some ⟨ticket, before⟩)
    (errands_eq : next.errands = (session.move number phase).errands)
    (awake : phase.isAsleep = false) :
    next.sleeping = session.sleeping.filter fun other => other.number ∉ [number] := by
  ext other
  rw [sound_next.sleeping_eq_some_iff, errands_eq, Option.filter_eq_some_iff,
    sound.sleeping_eq_some_iff]
  simp only [getElem?_move stands]
  grind

theorem running_of_move (sound : session.Sound) (sound_next : next.Sound)
    (stands : session.errands[number]? = some ⟨ticket, before⟩)
    (errands_eq : next.errands = (session.move number phase).errands)
    (unheld : before.pass? = none) (unheld_next : phase.pass? = none) :
    next.running = session.running := by
  ext ⟨other, pass⟩
  rw [sound_next.running_eq_some_iff, sound.running_eq_some_iff, errands_eq,
    getElem?_move stands]
  grind [Phase.pass?]

theorem running_of_leave (sound : session.Sound) (sound_next : next.Sound)
    (stands : session.errands[number]? = some ⟨ticket, before⟩)
    (errands_eq : next.errands = (session.move number phase).errands)
    (ceased : phase.pass? = none) :
    next.running = session.running.filter fun (other, _) => other.number ∉ [number] := by
  ext ⟨other, pass⟩
  rw [sound_next.running_eq_some_iff, errands_eq, Option.filter_eq_some_iff,
    sound.running_eq_some_iff, getElem?_move stands]
  grind [Phase.pass?]

/-- Errands keep their tickets, so the queue follows the line. -/
theorem queue_of_move (stands : session.errands[number]? = some ⟨ticket, before⟩)
    (errands_eq : next.errands = (session.move number phase).errands) :
    next.queue =
      next.waiters.filterMap fun other => (session.errands[other]?).map Errand.ticket := by
  rw [queue]
  refine List.filterMap_congr fun other _ => ?_
  rw [errands_eq, getElem?_move stands]
  grind

theorem filterMap_erase (sound : session.Sound) (number : Nat) :
    ((session.waiters.erase number).filterMap fun other =>
        (session.errands[other]?).map Errand.ticket) =
      session.queue.filter fun other => other.number ∉ [number] := by
  rw [sound.line.nodup.erase_eq_filter, queue, List.filterMap_filter, List.filter_filterMap]
  refine List.filterMap_congr fun other _ => ?_
  cases stands : session.errands[other]? with
  | none => simp
  | some errand =>
      obtain ⟨ticket, phase⟩ := errand
      have number_eq := sound.tickets.number_eq other ticket phase stands
      simp [Option.filter, number_eq]

/-- Errands keep their tickets. -/
theorem tickets_of_move (errands_eq : next.errands = (session.move number phase).errands) :
    next.tickets = session.tickets := by
  rw [Session.tickets, errands_eq, move, List.length_modify, Session.tickets]

/-! ## What becomes of the standing -/

/-- Another pass of the errand that holds the lock. -/
theorem standing_rerun (sound : session.Sound) {pass : Pass Key}
    (stands : session.errands[number]? = some ⟨ticket, .running pass⟩) (after : Pass Key) :
    (session.move number (.running after)).standing =
      { session.standing with running := some (ticket, after) } := by
  have sound_next := sound.rerun stands after
  have number_eq := sound.tickets.number_eq number ticket _ stands
  refine Standing.ext rfl (tickets_of_move rfl) rfl
    (sound.sleeping_of_move sound_next stands rfl rfl) (queue_of_move stands rfl) ?_ rfl
  exact sound_next.running_eq_some_iff.2 (by rw [getElem?_move stands, if_pos number_eq])

/-- The end of a pass. -/
theorem standing_finish (sound : session.Sound) {pass : Pass Key}
    (stands : session.errands[number]? = some ⟨ticket, .running pass⟩)
    (verdict : Except Abortion (Progress Key)) :
    (session.finish number verdict).standing = session.standing.finish verdict := by
  have sound_next := sound.finish stands verdict
  have number_eq := sound.tickets.number_eq number ticket _ stands
  have held : session.running = some (ticket, pass) :=
    sound.running_eq_some_iff.2 (number_eq ▸ stands)
  refine Standing.ext rfl (tickets_of_move rfl) rfl
    (sound.sleeping_of_move sound_next stands rfl rfl) (queue_of_move stands rfl) ?_ rfl
  refine (sound.running_of_leave sound_next stands rfl rfl).trans ?_
  rw [held]
  simp [Option.filter, number_eq, Standing.finish]

/-- The timer of an edit goes off. -/
theorem standing_fire (sound : session.Sound)
    (stands : session.errands[number]? = some ⟨ticket, .sleeping⟩) :
    (session.move number .roused).standing = session.standing := by
  have sound_next := sound.fire stands
  exact Standing.ext rfl (tickets_of_move rfl) rfl
    (sound.sleeping_of_move sound_next stands rfl rfl) (queue_of_move stands rfl)
    (sound.running_of_move sound_next stands rfl rfl rfl) rfl

/-- The edit that sleeps goes on and asks for the lock. -/
theorem standing_wake (sound : session.Sound)
    (stands : session.errands[number]? = some ⟨ticket, .roused⟩) :
    (session.wakened number).standing =
      { session.standing with
        sleeping := none
        queue := session.queue ++ session.sleeping.toList } := by
  have sound_next := sound.wake stands
  have number_eq := sound.tickets.number_eq number ticket _ stands
  have sleeps : session.sleeping = some ticket :=
    sound.sleeping_eq_some_iff.2 ⟨.roused, number_eq ▸ stands, rfl⟩
  have queue_eq : (session.wakened number).queue = _ := queue_of_move stands rfl
  refine Standing.ext rfl (tickets_of_move rfl) rfl ?_ (queue_eq.trans ?_)
    (sound.running_of_move sound_next stands rfl rfl rfl) rfl
  · refine (sound.sleeping_of_leave sound_next stands rfl rfl).trans ?_
    rw [sleeps]
    simp [Option.filter, number_eq]
  · rw [wakened, List.filterMap_append, sleeps]
    simp [stands, queue]

/-- The first ticket of the queue gets the lock. -/
theorem standing_grant (sound : session.Sound) {rest : List Nat}
    (waiters_eq : session.waiters = number :: rest)
    (stands : session.errands[number]? = some ⟨ticket, .queued⟩)
    (free : session.locked = false) (pass : Pass Key) :
    session.running = none ∧ session.queue = ticket :: session.queue.tail ∧
      (session.granted number pass).standing =
        { session.standing with queue := session.queue.tail, running := some (ticket, pass) } := by
  have sound_next := sound.grant stands free pass
  have number_eq := sound.tickets.number_eq number ticket _ stands
  have queue_eq : session.queue =
      ticket :: rest.filterMap fun other => (session.errands[other]?).map Errand.ticket := by
    rw [queue, waiters_eq, List.filterMap_cons_some (b := ticket) (by rw [stands]; rfl)]
  refine ⟨?_, by rw [queue_eq, List.tail_cons], ?_⟩
  · rw [Option.eq_none_iff_forall_ne_some]
    rintro ⟨other, after⟩ held
    have locked := sound.lock.locked_iff.2
      ⟨_, isAt_of_stands (sound.running_eq_some_iff.1 held)⟩
    rw [free] at locked
    contradiction
  · have next_queue_eq : (session.granted number pass).queue = _ := queue_of_move stands rfl
    refine Standing.ext rfl (tickets_of_move rfl) rfl
      (sound.sleeping_of_move sound_next stands rfl rfl) (next_queue_eq.trans ?_) ?_ rfl
    · rw [queue_eq, granted, waiters_eq, List.erase_cons_head, List.tail_cons]
    · refine sound_next.running_eq_some_iff.2 ?_
      rw [granted, getElem?_move stands, if_pos number_eq]

theorem standing_cancel (sound : session.Sound)
    (stands : session.errands[number]? = some ⟨ticket, phase⟩) (undone : phase.isDone = false) :
    (session.cancel number).1.standing = session.standing.without [number] := by
  have sound_next := sound.cancel number
  rw [cancel_of_not_done stands undone] at sound_next ⊢
  refine Standing.ext rfl (tickets_of_move rfl) rfl
    (sound.sleeping_of_leave sound_next stands rfl rfl) ?_
    (sound.running_of_leave sound_next stands rfl rfl) rfl
  exact Eq.trans (queue_of_move stands rfl) (sound.filterMap_erase number)

/-- One errand more leaves the others as they are. -/
theorem getElem?_of_ask {edit : Option Nat} {world : World} {other : Nat}
    {errand : Errand Key} (errands_eq : next.errands = (session.ask edit world phase).errands) :
    next.errands[other]? = some errand ↔
      other = session.tickets ∧ errand = ⟨⟨session.tickets, edit, world⟩, phase⟩ ∨
        session.errands[other]? = some errand := by
  rw [errands_eq, getElem?_ask]
  have fresh : session.errands[session.tickets]? = none := List.getElem?_eq_none (Nat.le_refl _)
  grind

theorem tickets_of_ask {edit : Option Nat} {world : World}
    (errands_eq : next.errands = (session.ask edit world phase).errands) :
    next.tickets = session.tickets + 1 := by
  rw [Session.tickets, errands_eq, ask, List.length_append, Session.tickets, List.length_singleton]

theorem running_of_ask (sound : session.Sound) (sound_next : next.Sound) {edit : Option Nat}
    {world : World} (errands_eq : next.errands = (session.ask edit world phase).errands)
    (unheld : phase.pass? = none) : next.running = session.running := by
  ext ⟨other, pass⟩
  rw [sound_next.running_eq_some_iff, sound.running_eq_some_iff, getElem?_of_ask errands_eq]
  grind [Phase.pass?]

/-- Tickets in line keep their place when a ticket is added. -/
theorem filterMap_waiters_of_ask (sound : session.Sound) {edit : Option Nat} {world : World}
    (errands_eq : next.errands = (session.ask edit world phase).errands) :
    (session.waiters.filterMap fun other => (next.errands[other]?).map Errand.ticket) =
      session.queue := by
  refine List.filterMap_congr fun number waits => ?_
  obtain ⟨ticket, phase, stands, -⟩ := exists_of_isAt ((sound.line.mem_iff number).1 waits)
  rw [stands, (getElem?_of_ask errands_eq).2 (.inr stands)]

/-- A new edit sleeps. -/
theorem standing_scheduled (sound : session.Sound)
    (idle : ∀ number, session.isAt number Phase.isAsleep = false) (world : World) :
    (session.scheduled world).standing =
      { session.standing with
        tickets := session.standing.tickets + 1
        edits := session.standing.edits + 1
        sleeping := some (session.standing.issued world) } := by
  have sound_next := sound.schedule idle world
  refine Standing.ext rfl (tickets_of_ask rfl) rfl ?_ (sound.filterMap_waiters_of_ask rfl)
    (sound.running_of_ask sound_next rfl rfl) rfl
  exact sound_next.sleeping_eq_some_iff.2
    ⟨.sleeping, (getElem?_of_ask rfl).2 (.inl ⟨rfl, rfl⟩), rfl⟩

/-- A check that is asked for waits for the lock behind the others. -/
theorem standing_enlisted (sound : session.Sound) (world : World) :
    (session.enlisted world).standing =
      { session.standing with
        tickets := session.tickets + 1
        queue := session.queue ++ [⟨session.tickets, none, world⟩] } := by
  have sound_next := sound.check world
  have errands_eq :
      (session.enlisted world).errands = (session.ask none world .queued).errands := rfl
  refine Standing.ext rfl (tickets_of_ask rfl) rfl ?_ ?_
    (sound.running_of_ask sound_next rfl rfl) rfl
  · ext other
    refine sound_next.sleeping_eq_some_iff.trans (Iff.trans ?_ sound.sleeping_eq_some_iff.symm)
    simp only [getElem?_of_ask errands_eq]
    grind [Phase.isAsleep]
  · have waiters_eq : (session.enlisted world).waiters = session.waiters ++ [session.tickets] := rfl
    have last : (session.enlisted world).errands[session.tickets]? =
        some ⟨⟨session.tickets, none, world⟩, .queued⟩ :=
      (getElem?_of_ask errands_eq).2 (.inl ⟨rfl, rfl⟩)
    change (session.enlisted world).queue = session.queue ++ [⟨session.tickets, none, world⟩]
    rw [queue, waiters_eq, List.filterMap_append, sound.filterMap_waiters_of_ask errands_eq,
      List.filterMap_cons, last]
    rfl

/-- Without the edit that sleeps, the tickets in the queue and of the running pass are as before. -/
theorem without_sleeping (sound : session.Sound)
    (stands : session.errands[number]? = some ⟨ticket, phase⟩) (asleep : phase.isAsleep = true) :
    session.standing.without [number] = { session.standing with sleeping := none } := by
  have number_eq := sound.tickets.number_eq number ticket phase stands
  have sleeps : session.sleeping = some ticket :=
    sound.sleeping_eq_some_iff.2 ⟨phase, number_eq ▸ stands, asleep⟩
  have another {other : Ticket} {elsewhere : Phase Key}
      (other_stands : session.errands[other.number]? = some ⟨other, elsewhere⟩)
      (awake : elsewhere.isAsleep = false) : decide (other.number ∉ [number]) = true := by
    rw [decide_eq_true_iff, List.mem_singleton]
    intro same
    rw [same, stands] at other_stands
    cases other_stands
    rw [asleep] at awake
    contradiction
  refine Standing.ext rfl rfl rfl ?_ ?_ ?_ rfl
  · rw [Standing.without, standing, sleeps]
    simp [Option.filter, number_eq]
  · rw [Standing.without, List.filter_eq_self]
    intro other waits
    exact another (sound.mem_queue_iff.1 waits) rfl
  · refine Option.ext ?_
    rintro ⟨other, pass⟩
    refine Option.filter_eq_some_iff.trans (and_iff_left_of_imp ?_)
    intro held
    exact another (sound.running_eq_some_iff.1 held) rfl

theorem sleeping_eq_none (sound : session.Sound)
    (idle : ∀ number, session.waiting = some number → session.isAt number Phase.isDone = true) :
    session.sleeping = none := by
  rw [Option.eq_none_iff_forall_ne_some]
  intro ticket sleeps
  obtain ⟨phase, stands, asleep⟩ := sound.sleeping_eq_some_iff.1 sleeps
  have asleep_there : session.isAt ticket.number Phase.isAsleep = true :=
    (isAt_of_stands stands).trans asleep
  have done := idle ticket.number (sound.slot.of_asleep _ asleep_there)
  rw [not_done_of_asleep asleep_there] at done
  contradiction

/-- The edit in the slot is cancelled if it sleeps. -/
theorem standing_cancelWaiting (sound : session.Sound) :
    session.cancelWaiting.1.standing = { session.standing with sleeping := none } ∧
      session.cancelWaiting.2 = cancelled (session.sleeping.toList.map Ticket.number) := by
  have nothing (none_sleeps : session.sleeping = none) :
      session.standing = { session.standing with sleeping := none } ∧
        ([] : List Notice) = cancelled (session.sleeping.toList.map Ticket.number) := by
    constructor
    · rw [← none_sleeps]
      rfl
    · rw [none_sleeps]
      rfl
  rw [Session.cancelWaiting]
  split
  · rename_i number in_slot
    split
    · rename_i done
      refine nothing (sound.sleeping_eq_none fun other same => ?_)
      rw [in_slot] at same
      exact Option.some.inj same ▸ done
    · rename_i undone
      obtain ⟨ticket, phase, stands, asleep⟩ :=
        exists_of_isAt ((sound.slot.asleep_or_done number in_slot).resolve_right undone)
      rw [isAt_of_stands stands, Bool.not_eq_true] at undone
      have number_eq := sound.tickets.number_eq number ticket phase stands
      have sleeps : session.sleeping = some ticket :=
        sound.sleeping_eq_some_iff.2 ⟨phase, number_eq ▸ stands, asleep⟩
      refine ⟨(sound.standing_cancel stands undone).trans
        (sound.without_sleeping stands asleep), ?_⟩
      rw [cancel_of_not_done stands undone, sleeps, ← number_eq]
      rfl
  · rename_i free
    refine nothing (sound.sleeping_eq_none fun other same => ?_)
    rw [free] at same
    contradiction

/-- A new edit sleeps in place of the one that is cancelled. -/
theorem standing_scheduled_cancelWaiting (sound : session.Sound) (world : World) :
    (session.cancelWaiting.1.scheduled world).standing =
        { session.standing with
          tickets := session.standing.tickets + 1
          edits := session.standing.edits + 1
          sleeping := some (session.standing.issued world) } ∧
      session.cancelWaiting.2 = cancelled (session.sleeping.toList.map Ticket.number) := by
  obtain ⟨standing_eq, notices_eq⟩ := sound.standing_cancelWaiting
  rw [sound.cancelWaiting.standing_scheduled sound.not_asleep_cancelWaiting, standing_eq,
    notices_eq]
  exact ⟨rfl, rfl⟩

/-! ## All edits are cancelled -/

theorem mem_liveEdits (sound : session.Sound) : number ∈ session.liveEdits ↔
    ∃ ticket phase, session.errands[number]? = some ⟨ticket, phase⟩ ∧
      ticket.edit.isSome = true ∧ phase.isDone = false := by
  rw [liveEdits, List.mem_map]
  constructor
  · rintro ⟨⟨ticket, phase⟩, mem, rfl⟩
    obtain ⟨mem, live⟩ := List.mem_filter.1 mem
    obtain ⟨other, stands⟩ := List.mem_iff_getElem?.1 mem
    obtain rfl := sound.tickets.number_eq other ticket phase stands
    exact ⟨ticket, phase, stands, by simpa using live⟩
  · rintro ⟨ticket, phase, stands, live⟩
    have mem := List.mem_of_getElem? stands
    refine ⟨⟨ticket, phase⟩, List.mem_filter.2 ⟨mem, by simpa using live⟩, ?_⟩
    exact sound.tickets.number_eq number ticket phase stands

theorem nodup_liveEdits (sound : session.Sound) : session.liveEdits.Nodup := by
  have numbers_eq : session.errands.map (fun errand => errand.ticket.number) =
      List.range session.errands.length := by
    refine List.ext_getElem? fun number => ?_
    rw [List.getElem?_map]
    cases stands : session.errands[number]? with
    | none => rw [List.getElem?_eq_none (by simpa using stands)]; rfl
    | some errand =>
        rw [List.getElem?_range (List.getElem?_eq_some_iff.1 stands).1]
        exact congrArg some (sound.tickets.number_eq number _ _ stands)
  have distinct : (session.errands.map fun errand => errand.ticket.number).Nodup :=
    numbers_eq ▸ List.nodup_range
  exact distinct.sublist (List.filter_sublist.map _)

theorem cancelAll_cons (session : Session Key) (number : Nat) (rest : List Nat) :
    session.cancelAll (number :: rest) =
      (((session.cancel number).1.cancelAll rest).1,
        (session.cancel number).2 ++ ((session.cancel number).1.cancelAll rest).2) :=
  rfl

/-- Errands that are cancelled one after the other. -/
theorem standing_cancelAll (sound : session.Sound) {numbers : List Nat} (distinct : numbers.Nodup)
    (live : ∀ number ∈ numbers, ∃ ticket phase,
      session.errands[number]? = some ⟨ticket, phase⟩ ∧ phase.isDone = false) :
    (session.cancelAll numbers).1.standing = session.standing.without numbers ∧
      (session.cancelAll numbers).2 = cancelled numbers := by
  induction numbers generalizing session with
  | nil => exact ⟨session.standing.without_nil.symm, rfl⟩
  | cons number rest induction =>
      obtain ⟨fresh, rest_distinct⟩ := List.nodup_cons.1 distinct
      obtain ⟨⟨ticket, phase, stands, undone⟩, rest_live⟩ := List.forall_mem_cons.1 live
      have rest_live_next : ∀ other ∈ rest, ∃ ticket phase,
          (session.cancel number).1.errands[other]? = some ⟨ticket, phase⟩ ∧
            phase.isDone = false := by
        intro other mem
        rw [cancel_of_not_done stands undone, getElem?_move stands,
          if_neg (ne_of_mem_of_not_mem mem fresh)]
        exact rest_live other mem
      obtain ⟨standing_eq, notices_eq⟩ :=
        induction (sound.cancel number) rest_distinct rest_live_next
      rw [cancelAll_cons, standing_eq, notices_eq, sound.standing_cancel stands undone,
        Standing.without_cons, cancel_of_not_done stands undone]
      exact ⟨rfl, rfl⟩

/-- A ticket is pending exactly if its errand has not come to its end. -/
theorem mem_pending_iff (sound : session.Sound) : ticket ∈ session.standing.pending ↔
    ∃ phase, session.errands[ticket.number]? = some ⟨ticket, phase⟩ ∧ phase.isDone = false := by
  have mem_iff : ticket ∈ session.standing.pending ↔
      (∃ pass, session.running = some (ticket, pass)) ∨ ticket ∈ session.queue ∨
        session.sleeping = some ticket := by
    simp [Standing.pending, Standing.engaged, standing]
  rw [mem_iff, sound.mem_queue_iff, sound.sleeping_eq_some_iff]
  simp only [sound.running_eq_some_iff]
  constructor
  · rintro (⟨pass, stands⟩ | stands | ⟨phase, stands, asleep⟩)
    · exact ⟨.running pass, stands, rfl⟩
    · exact ⟨.queued, stands, rfl⟩
    · exact ⟨phase, stands, Phase.isDone_of_asleep asleep⟩
  · rintro ⟨phase, stands, undone⟩
    cases phase with
    | sleeping | roused => exact .inr (.inr ⟨_, stands, rfl⟩)
    | queued => exact .inr (.inl stands)
    | running pass => exact .inl ⟨pass, stands⟩
    | done => contradiction

theorem map_number_queue (sound : session.Sound) :
    session.queue.map Ticket.number = session.waiters := by
  rw [queue, List.map_filterMap]
  refine (List.filterMap_congr fun number waits => ?_).trans List.filterMap_some
  obtain ⟨ticket, phase, stands, -⟩ := exists_of_isAt ((sound.line.mem_iff number).1 waits)
  rw [stands]
  exact congrArg some (sound.tickets.number_eq number ticket phase stands)

/-- No number is pending twice. -/
theorem nodup_pending (sound : session.Sound) :
    (session.standing.pending.map Ticket.number).Nodup := by
  have waits_not {other : Ticket} {phase : Phase Key}
      (stands : session.errands[other.number]? = some ⟨other, phase⟩)
      (elsewhere : phase.isQueued = false) : other.number ∉ session.waiters := by
    rw [sound.line.mem_iff, isAt_of_stands stands, elsewhere]
    exact Bool.false_ne_true
  simp only [Standing.pending, Standing.engaged, standing, List.map_append, sound.map_number_queue]
  refine List.nodup_append.2 ⟨List.nodup_append.2 ⟨?_, sound.line.nodup, ?_⟩, ?_, ?_⟩
  · cases session.running <;> simp
  · intro number runs other waits
    obtain ⟨ticket, mem, rfl⟩ := List.mem_map.1 runs
    obtain ⟨⟨_, pass⟩, held, rfl⟩ := List.mem_map.1 mem
    have stands := sound.running_eq_some_iff.1 (Option.mem_toList.1 held)
    rintro rfl
    exact waits_not stands rfl waits
  · cases session.sleeping <;> simp
  · intro number engaged other sleeps
    obtain ⟨sleeper, mem, rfl⟩ := List.mem_map.1 sleeps
    obtain ⟨phase, stands, asleep⟩ := sound.sleeping_eq_some_iff.1 (Option.mem_toList.1 mem)
    rintro rfl
    rcases List.mem_append.1 engaged with runs | waits
    · obtain ⟨ticket, mem, same⟩ := List.mem_map.1 runs
      obtain ⟨⟨_, pass⟩, held, rfl⟩ := List.mem_map.1 mem
      have other_stands := sound.running_eq_some_iff.1 (Option.mem_toList.1 held)
      grind [Phase.isAsleep]
    · exact waits_not stands (Phase.isQueued_of_asleep asleep) waits

/-- The edits that are cancelled together are those that are pending. -/
theorem perm_liveEdits (sound : session.Sound) :
    session.liveEdits.Perm ((session.standing.pending.filter fun ticket =>
      ticket.edit.isSome).map Ticket.number) := by
  have distinct : ((session.standing.pending.filter fun ticket =>
      ticket.edit.isSome).map Ticket.number).Nodup :=
    sound.nodup_pending.sublist (List.filter_sublist.map Ticket.number)
  refine (List.perm_ext_iff_of_nodup sound.nodup_liveEdits distinct).2 fun number => ?_
  rw [sound.mem_liveEdits, List.mem_map]
  constructor
  · rintro ⟨ticket, phase, stands, is_edit, undone⟩
    obtain rfl := sound.tickets.number_eq number ticket phase stands
    have pends := sound.mem_pending_iff.2 ⟨phase, stands, undone⟩
    exact ⟨ticket, List.mem_filter.2 ⟨pends, is_edit⟩, rfl⟩
  · rintro ⟨ticket, mem, rfl⟩
    obtain ⟨pends, is_edit⟩ := List.mem_filter.1 mem
    obtain ⟨phase, stands, undone⟩ := sound.mem_pending_iff.1 pends
    exact ⟨ticket, phase, stands, is_edit, undone⟩

/-- A pending ticket is cancelled with the edits exactly if an edit asked for it. -/
theorem mem_liveEdits_of_pending (sound : session.Sound)
    (pends : ticket ∈ session.standing.pending) :
    ticket.number ∈ session.liveEdits ↔ ticket.edit.isSome = true := by
  obtain ⟨phase, stands, undone⟩ := sound.mem_pending_iff.1 pends
  rw [sound.mem_liveEdits, stands]
  grind

/-- Once all edits are cancelled, the other tickets are left. -/
theorem standing_cancelEdits (sound : session.Sound) :
    (session.cancelAll session.liveEdits).1.standing = session.standing.withoutEdits ∧
      (session.cancelAll session.liveEdits).2 = cancelled session.liveEdits := by
  have left_iff {ticket : Ticket} (pends : ticket ∈ session.standing.pending) :
      decide (ticket.number ∉ session.liveEdits) = ticket.edit.isNone := by
    have mem_iff := sound.mem_liveEdits_of_pending pends
    cases edit_eq : ticket.edit <;> simp [edit_eq] at mem_iff ⊢ <;> exact mem_iff
  obtain ⟨standing_eq, notices_eq⟩ := sound.standing_cancelAll sound.nodup_liveEdits
    fun number mem => by
      obtain ⟨ticket, phase, stands, -, undone⟩ := sound.mem_liveEdits.1 mem
      exact ⟨ticket, phase, stands, undone⟩
  refine ⟨standing_eq.trans (Standing.ext rfl rfl rfl ?_ ?_ ?_ rfl), notices_eq⟩
  · refine Option.ext fun sleeper => ?_
    refine Option.filter_eq_some_iff.trans (Iff.trans ?_ Option.filter_eq_some_iff.symm)
    refine and_congr_right fun sleeps => ?_
    rw [left_iff (List.mem_append_right _ (Option.mem_toList.2 sleeps))]
  · refine List.filter_congr fun other waits => left_iff ?_
    exact List.mem_append_left _ (List.mem_append_right _ waits)
  · refine Option.ext fun ⟨other, pass⟩ => ?_
    refine Option.filter_eq_some_iff.trans (Iff.trans ?_ Option.filter_eq_some_iff.symm)
    refine and_congr_right fun held => ?_
    have pends : other ∈ session.standing.pending :=
      sound.mem_pending_iff.2 ⟨.running pass, sound.running_eq_some_iff.1 held, rfl⟩
    simp only [left_iff pends]

end Sound
end Session
end ProseCheck
