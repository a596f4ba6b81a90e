import ProseCheck.Proofs.Check.Course
import ProseCheck.Proofs.Session.Line

/-!
# Edits that are overtaken

A newer edit cancels the one that sleeps, which then never sends a request.  An edit that has woken
is past recall: it keeps its place in the queue behind the running pass, and when its turn comes,
requests go out for it although its report will not be heard.
-/

namespace ProseCheck

/-- What a pass sends next is the request for one of its chunks. -/
theorem Pass.Reached.request_of_launch {Key : Type} [DecidableEq Key]
    {keyOf : Text → String → Key} {assignment : Assignment} {cache : Cache Key}
    {pass next : Pass Key} {task : Task} (reached : Reached keyOf assignment cache pass)
    (launched : pass.launch = some (task, next)) :
    ∃ chunk ∈ assignment.chunks, next.assignment.request task.chunk = assignment.request chunk := by
  obtain ⟨records, recorded⟩ := reached.exists_records
  obtain ⟨sent, next_eq, same⟩ := Option.map_eq_some_iff.1 launched
  obtain ⟨rfl, rfl⟩ := Prod.mk.inj same
  obtain ⟨-, before, after, tasks_eq, -⟩ := next?_cases next_eq
  refine ⟨sent.chunk, ?_, congrArg (·.request sent.chunk) recorded.assignment_eq⟩
  rw [← recorded.chunks_eq, tasks_eq]
  simp

namespace Session

variable {Key : Type} [DecidableEq Key] {keyOf : Text → String → Key} {session : Session Key}

/-- A pass that runs or will run is not forgotten by whatever happens, short of the end of all
edits. -/
theorem engaged_run (sound : session.Sound) {occurrences : List Occurrence}
    (uncancelled : .cancelEdits ∉ occurrences) {ticket : Ticket} (mem : ticket ∈ session.engaged) :
    ticket ∈ (session.run keyOf occurrences).1.engaged ∨
      ∃ ending, ending ≠ .cancelled ∧
        .ended ticket.number ending ∈ (session.run keyOf occurrences).2 := by
  induction occurrences generalizing session with
  | nil => exact .inl mem
  | cons occurrence rest induction =>
      obtain ⟨goes_on, rest_goes_on⟩ := not_or.1 fun is_end => uncancelled (List.mem_cons.2 is_end)
      rcases (turn_step sound keyOf occurrence).stays_engaged (Ne.symm goes_on) mem with
        mem | ⟨ending, runs_out, ended⟩
      · rcases induction (sound.step keyOf occurrence) rest_goes_on mem with
          mem | ⟨ending, runs_out, ended⟩
        · exact .inl mem
        · exact .inr ⟨ending, runs_out, List.mem_append_right _ ended⟩
      · exact .inr ⟨ending, runs_out, List.mem_append_left _ ended⟩

/-- A ticket in line after an edit is newer, or its pass was running or to run when that came. -/
theorem engaged_of_awaited (sound : session.Sound) {world : World} {after : List Occurrence}
    {ticket : Ticket} {edit : Nat}
    (mem : ticket ∈ ((session.step keyOf (.edit world)).1.run keyOf after).1.standing.awaited)
    (edit_eq : ticket.edit = some edit) (older : edit ≤ session.edits) :
    ticket ∈ session.engaged := by
  have sound_next := sound.step keyOf (.edit world)
  have standing_eq := (standing_edit sound keyOf world).1
  obtain ⟨heard, -, line⟩ := line_run sound_next keyOf after
  rcases List.mem_append.1 (line.subset (List.mem_append_right heard mem)) with mem | mem
  · rw [standing_eq] at mem
    rcases List.mem_append.1 (List.mem_filter.1 mem).1 with mem | mem
    · exact mem
    · -- The ticket of the newer edit itself.
      obtain rfl := List.mem_singleton.1 mem
      have newer := Option.some.inj edit_eq
      exact absurd newer (Nat.ne_of_gt (Nat.lt_succ_of_le older))
  · obtain ⟨index, index_eq, -⟩ := of_mem_issuedBy sound_next mem
    have edits_eq := edits_step sound keyOf (.edit world)
    rw [edit_eq, edits_eq, Option.some.injEq] at index_eq
    omega

/-- What an edit does to those before it.  Any request that goes out later is for a chunk of the
document of its ticket, and this is no older edit unless its pass was running or to run when the
newer edit came.  The edit that sleeps is cancelled, and no pass of it ever runs.  But an edit whose
pass is to run is not: unless all edits are cancelled, it waits for its pass or has it, or that has
come to its end. -/
theorem overtaken_edits (keyOf : Text → String → Key) (options : Options)
    (before after : List Occurrence) (world : World) (session later : Session Key)
    (session_eq : ((start options).run keyOf before).1 = session)
    (later_eq : ((session.step keyOf (.edit world)).1.run keyOf after).1 = later) :
    (∀ occurrence place request, .request place request ∈ (later.step keyOf occurrence).2 →
      ∃ ticket pass, later.running = some (ticket, pass) ∧
        (∃ chunk ∈ (options.assignment ticket.world).chunks,
          request = (options.assignment ticket.world).request chunk) ∧
        ∀ edit, ticket.edit = some edit → edit ≤ session.edits → ticket ∈ session.engaged) ∧
    (∀ ticket ∈ session.sleeping,
      .ended ticket.number .cancelled ∈ (session.step keyOf (.edit world)).2 ∧
        ∀ pass, later.running ≠ some (ticket, pass)) ∧
    (.cancelEdits ∉ after → ∀ ticket ∈ session.engaged,
      ticket ∈ later.engaged ∨
        ∃ ending, ending ≠ .cancelled ∧
          .ended ticket.number ending ∈
            ((session.step keyOf (.edit world)).1.run keyOf after).2) := by
  subst session_eq later_eq
  have sound := (sound_start options : (start options : Session Key).Sound).run keyOf before
  have begun := begun_run (sound_start options) (Standing.begun_start keyOf options) before
  have sound_next := sound.step keyOf (.edit world)
  refine ⟨?_, ?_, ?_⟩
  · intro occurrence place request mem
    obtain ⟨ticket, pass, task, next, running, launched, rfl⟩ :=
      (turn_step (sound_next.run keyOf after) keyOf occurrence).of_request mem
    have later_begun := begun_run sound_next
      ((turn_step sound keyOf (.edit world)).begun begun) after
    have reached := later_begun.running ticket pass running
    refine ⟨ticket, pass, running, reached.request_of_launch launched, ?_⟩
    intro edit edit_eq older
    exact engaged_of_awaited sound (Standing.mem_awaited_of_running running edit_eq) edit_eq older
  · intro ticket sleeps
    constructor
    · rw [(standing_edit sound keyOf world).2]
      exact List.mem_map_of_mem (List.mem_map_of_mem (Option.mem_toList.2 sleeps))
    intro pass running
    -- The sleeping edit is older than the one that cancels it, but newer than those that run.
    obtain ⟨phase, stands_asleep, asleep⟩ := sound.sleeping_eq_some_iff.1 sleeps
    obtain ⟨edit, edit_eq⟩ := Option.isSome_iff_exists.1
      (sound.tickets.edit_of_asleep _ ticket phase stands_asleep asleep)
    have stands : ticket ∈ ((start options).run keyOf before).1.standing.awaited := by
      refine List.mem_filter.2 ⟨List.mem_append_right _ (Option.mem_toList.2 sleeps), ?_⟩
      rw [edit_eq]
      rfl
    have older : edit ≤ ((start options).run keyOf before).1.edits := by
      obtain ⟨index, index_eq, world_eq⟩ := of_mem_awaited keyOf options before stands
      obtain rfl := Option.some.inj (edit_eq.symm.trans index_eq)
      rw [edits_run_start]
      exact (List.getElem?_eq_some_iff.1 world_eq).1
    have mem := engaged_of_awaited sound (Standing.mem_awaited_of_running running edit_eq) edit_eq
      older
    exact Nat.lt_irrefl edit (lt_sleeping keyOf options before mem edit_eq sleeps edit_eq)
  · intro uncancelled ticket mem
    exact engaged_run sound_next uncancelled (by rwa [engaged, (standing_edit sound keyOf world).1])

/-- The pass of an edit runs, another edit waits for it, and a third one sleeps. -/
def crowded : List Occurrence :=
  [.edit (note ['A']), .fire 0, .wake 0, .grant, .launch 0, .edit (note ['B']), .fire 1, .wake 1,
    .edit (note ['C'])]

/-- The pass that runs comes to its end, and the next one begins. -/
def relieved : List Occurrence := [.answer 0 0 (.ok []), .review 0, .grant]

/-- The session once an edit has come and the pass after has begun. -/
def overtaken : Session (Text × String) :=
  ((((start Check.twins.options).run Prod.mk crowded).1.step Prod.mk (.edit (note ['D']))).1.run
    Prod.mk relieved).1

theorem overtaken_edits_crowded :
    (∃ place request ticket pass,
      .request place request ∈ (overtaken.step Prod.mk (.launch 1)).2 ∧ request.text = ['B'] ∧
        overtaken.running = some (ticket, pass) ∧ ticket.edit = some 2 ∧
          ticket ∈ ((start Check.twins.options).run Prod.mk crowded).1.engaged) ∧
    (∃ ticket ∈ ((start Check.twins.options).run Prod.mk crowded).1.sleeping,
      ticket.edit = some 3 ∧ ∀ pass, overtaken.running ≠ some (ticket, pass)) ∧
    ∀ ticket ∈ ((start Check.twins.options).run Prod.mk crowded).1.engaged,
      ticket ∈ overtaken.engaged ∨ ∃ ending, ending ≠ .cancelled ∧
        .ended ticket.number ending ∈
          ((((start Check.twins.options).run Prod.mk crowded).1.step Prod.mk
            (.edit (note ['D']))).1.run Prod.mk relieved).2 := by
  obtain ⟨asks, cancels, goes_on⟩ := overtaken_edits Prod.mk Check.twins.options crowded relieved
    (note ['D']) _ overtaken rfl rfl
  refine ⟨?_, ?_, goes_on (by simp [relieved])⟩
  · obtain ⟨place, request, notices_eq, text_eq⟩ : ∃ place request,
        (overtaken.step Prod.mk (.launch 1)).2 = [.request place request] ∧ request.text = ['B'] :=
      ⟨_, _, rfl, by decide +kernel⟩
    have mem : .request place request ∈ (overtaken.step Prod.mk (.launch 1)).2 := by
      rw [notices_eq]
      exact List.mem_cons_self
    obtain ⟨ticket, pass, running, -, older_engaged⟩ := asks (.launch 1) place request mem
    have second : overtaken.running.map (fun run => run.1.edit) = some (some 2) := rfl
    rw [running, Option.map_some, Option.some.injEq] at second
    exact ⟨place, request, ticket, pass, mem, text_eq, running, second,
      older_engaged 2 second (by decide +kernel)⟩
  · obtain ⟨ticket, sleeps, edit_eq⟩ :
        ∃ ticket ∈ ((start Check.twins.options).run Prod.mk crowded).1.sleeping,
          ticket.edit = some 3 := ⟨_, rfl, rfl⟩
    exact ⟨ticket, sleeps, edit_eq, (cancels ticket sleeps).2⟩

/-- So it is not so that of the edits that are overtaken, only one whose pass already runs sends
requests. -/
theorem overtaken_edit_asks :
    ¬ ∀ (before after : List Occurrence) (world : World) (session later : Session (Text × String)),
        ((start Check.twins.options).run Prod.mk before).1 = session →
          ((session.step Prod.mk (.edit world)).1.run Prod.mk after).1 = later →
            ∀ occurrence place request ticket pass edit,
              .request place request ∈ (later.step Prod.mk occurrence).2 →
                later.running = some (ticket, pass) → ticket.edit = some edit →
                  edit ≤ session.edits → ∃ begun, session.running = some (ticket, begun) := by
  intro never_asks
  obtain ⟨place, request, ticket, pass, asks, running, edit_eq⟩ :
      ∃ place request ticket pass,
        .request place request ∈ (overtaken.step Prod.mk (.launch 1)).2 ∧
          overtaken.running = some (ticket, pass) ∧ ticket.edit = some 2 :=
    ⟨_, _, _, _, List.mem_singleton.2 rfl, rfl, rfl⟩
  obtain ⟨begun, ran⟩ := never_asks crowded relieved (note ['D']) _ overtaken rfl rfl (.launch 1)
    place request ticket pass 2 asks running edit_eq (by decide +kernel)
  -- The pass that ran was that of the first edit.
  have first : ((start Check.twins.options).run Prod.mk crowded).1.running.map
      (fun run => run.1.edit) = some (some 1) := rfl
  rw [ran, Option.map_some, edit_eq] at first
  contradiction

end Session
end ProseCheck
