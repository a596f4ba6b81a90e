import ProseCheck.Proofs.Check.Judgement
import ProseCheck.Proofs.Session.Turn

/-!
# Transparent caches

Where the answers of a server follow from the paragraphs that it is asked about, nobody can tell
from what a session reports that it keeps a cache: each check ends as it would have done alone.
The invariant is that the cache keeps nothing but what comes of paragraphs of the session, and that
the running pass has recorded nothing else.
-/

namespace ProseCheck

/-- What an ending tells the user of the document. -/
def Ending.told? : Ending → Option (Except Abortion (List Diagnostic × List String))
  | .report found => some (.ok found.told)
  | .abortion stopped => some (.error stopped)
  | .cancelled | .unheard => none

/-- The chunks of some documents. -/
def Options.IsChunkOf (options : Options) (worlds : List World) (chunk : Chunk) : Prop :=
  ∃ world ∈ worlds, chunk ∈ (options.assignment world).chunks

namespace Check

variable {Key State : Type} [DecidableEq Key]

/-- What the user is told by checks of documents one after the other, each with the cache that the
last one to succeed has left. -/
def series (keyOf : Text → String → Key) (server : Server State) (options : Options) :
    State → Cache Key → List World → List (Except Abortion (List Diagnostic × List String))
  | _, _, [] => []
  | state, cache, world :: rest =>
    match run keyOf server state (options.assignment world) cache with
    | (.ok (report, next), state) =>
      .ok report.told :: series keyOf server options state next rest
    | (.error abortion, state) => .error abortion :: series keyOf server options state cache rest

/-- Checks one after the other tell what follows from their documents. -/
theorem series_eq {keyOf : Text → String → Key} {server : Server State} {backend : Backend}
    (follows : server.Follows backend) {options : Options} {all : List World}
    (distinguishes : Distinguishes keyOf (options.IsChunkOf all)) (state : State)
    {cache : Cache Key}
    (consistent : cache.Consistent keyOf (options.outcome backend) (options.IsChunkOf all))
    {worlds : List World} (subset : worlds ⊆ all) :
    series keyOf server options state cache worlds =
      worlds.map fun world => (options.assignment world).verdict backend := by
  induction worlds generalizing state cache with
  | nil => rfl
  | cons world rest induction =>
      obtain ⟨world_mem, rest_subset⟩ := List.cons_subset.1 subset
      have paragraphs : ∀ chunk ∈ (options.assignment world).chunks, options.IsChunkOf all chunk :=
        fun chunk mem => ⟨world, world_mem, mem⟩
      have told_eq := told_run follows distinguishes consistent paragraphs state
      rw [series, List.map_cons]
      split
      · rename_i report next after succeeds
        have next_consistent := consistent_run follows distinguishes consistent paragraphs succeeds
        rw [succeeds] at told_eq
        rw [induction after next_consistent rest_subset, ← told_eq]
        rfl
      · rename_i abortion after fails
        rw [fails] at told_eq
        rw [induction after consistent rest_subset, ← told_eq]
        rfl

end Check

/-- A ticket that came to an end tells what follows from the document of its number. -/
def Notice.IsTrue (backend : Backend) (options : Options) (worlds : List World) : Notice → Prop
  | .ended number ending => ∀ told, ending.told? = some told →
    ∃ world, worlds[number]? = some world ∧ (options.assignment world).verdict backend = told
  | .request _ _ | .delivered _ _ => True

namespace Session

variable {Key : Type} [DecidableEq Key]

/-- An answer that comes back for a request is what comes of that request. -/
def Answered (backend : Backend) (session : Session Key) : Occurrence → Prop
  | .answer number place outcome =>
    ∀ ticket pass, session.running = some (ticket, pass) → ticket.number = number →
      ∀ task ∈ pass.tasks, task.place = place → task.isAsked = true →
        (pass.assignment.request task.chunk).outcome backend = outcome
  | _ => True

/-- So are all answers that come back while some things happen. -/
def AnsweredBy (keyOf : Text → String → Key) (backend : Backend) (session : Session Key) :
    List Occurrence → Prop
  | [] => True
  | occurrence :: rest =>
    session.Answered backend occurrence ∧
      (session.step keyOf occurrence).1.AnsweredBy keyOf backend rest

end Session

namespace Standing

open Session

variable {Key : Type} [DecidableEq Key] {keyOf : Text → String → Key} {backend : Backend}
  {options : Options} {worlds : List World} {standing next : Standing Key}
  {occurrence : Occurrence} {notices : List Notice}

/-- A session that has taken up nothing but the documents of its tickets, and keeps and has recorded
nothing but what comes of their paragraphs. -/
structure Faithful (keyOf : Text → String → Key) (backend : Backend) (options : Options)
    (worlds : List World) (standing : Standing Key) : Prop where
  options_eq : standing.options = options
  sleeping : ∀ ticket ∈ standing.sleeping, worlds[ticket.number]? = some ticket.world
  queue : ∀ ticket ∈ standing.queue, worlds[ticket.number]? = some ticket.world
  running : ∀ ticket pass, standing.running = some (ticket, pass) →
    worlds[ticket.number]? = some ticket.world ∧
      ∃ records, pass.Recorded keyOf (options.assignment ticket.world)
        (Pass.Agrees (options.outcome backend)) records
  cache : standing.cache.Consistent keyOf (options.outcome backend) (options.IsChunkOf worlds)

theorem faithful_start :
    (start options : Session Key).standing.Faithful keyOf backend options worlds where
  options_eq := rfl
  sleeping := by simp [start, Session.standing, Session.sleeping]
  queue := by simp [start, Session.standing, Session.queue]
  running := by simp [start, Session.standing, Session.running]
  cache := Cache.consistent_empty

theorem isTrue_cancelled (numbers : List Nat) :
    ∀ notice ∈ cancelled numbers, notice.IsTrue backend options worlds := by
  intro notice mem
  obtain ⟨number, -, rfl⟩ := List.mem_map.1 mem
  intro told told_eq
  contradiction

/-- What others see of the end of a pass is true. -/
theorem isTrue_endings (edits : Nat) {ticket : Ticket} {pass : Pass Key}
    {records : List Record} (is_for : worlds[ticket.number]? = some ticket.world)
    (recorded : pass.Recorded keyOf (options.assignment ticket.world)
      (Pass.Agrees (options.outcome backend)) records)
    {verdict : Except Abortion (Progress Key)} (ends : pass.verdict? = some verdict) :
    ∀ notice ∈ endings edits pass ticket verdict, notice.IsTrue backend options worlds := by
  have verdict_eq := recorded.verdict_eq ends
  have told_true : ∀ ending : Ending, (∀ told, ending.told? = some told →
      verdict.map (fun progress => progress.findings.told) = told) →
        (Notice.ended ticket.number ending).IsTrue backend options worlds := by
    intro ending tells told told_eq
    exact ⟨ticket.world, is_for, verdict_eq.symm.trans (tells told told_eq)⟩
  have unheard : (Notice.ended ticket.number .unheard).IsTrue backend options worlds := by
    intro told told_eq
    contradiction
  intro notice mem
  cases verdict with
  | ok progress =>
      have reported := told_true (.report (Check.report pass.size progress))
        fun told told_eq => Option.some.inj told_eq
      rw [endings] at mem
      split at mem
      · obtain rfl := List.mem_singleton.1 mem
        exact reported
      · split at mem
        · rcases List.mem_cons.1 mem with rfl | mem
          · trivial
          · obtain rfl := List.mem_singleton.1 mem
            exact reported
        · obtain rfl := List.mem_singleton.1 mem
          exact unheard
  | error abortion =>
      rw [endings] at mem
      split at mem
      · obtain rfl := List.mem_singleton.1 mem
        exact told_true (.abortion abortion) fun told told_eq => Option.some.inj told_eq
      · obtain rfl := List.mem_singleton.1 mem
        exact unheard

/-- The answers that come back for the pass that runs are what comes of its requests. -/
theorem recorded_moved {ticket : Ticket} {pass after : Pass Key} {records : List Record}
    (moved : pass.Moved keyOf ticket.number occurrence after)
    (answered : ∀ number place outcome, occurrence = .answer number place outcome →
      ticket.number = number → ∀ task ∈ pass.tasks, task.place = place → task.isAsked = true →
        (pass.assignment.request task.chunk).outcome backend = outcome)
    (recorded : pass.Recorded keyOf (options.assignment ticket.world)
      (Pass.Agrees (options.outcome backend)) records) :
    ∃ more, after.Recorded keyOf (options.assignment ticket.world)
      (Pass.Agrees (options.outcome backend)) more := by
  cases moved with
  | answer place outcome =>
      refine ⟨records, recorded.answer ?_⟩
      intro task mem at_place asked
      have chunk_mem : task.chunk ∈ (options.assignment ticket.world).chunks := by
        rw [← recorded.chunks_eq]
        exact List.mem_append_right _ (List.mem_map_of_mem mem)
      have outcome_eq := answered _ place outcome rfl rfl task mem at_place asked
      rw [recorded.assignment_eq, Assignment.outcome_request _ backend chunk_mem] at outcome_eq
      exact outcome_eq
  | review =>
      obtain ⟨more, reviewed⟩ := recorded.review
      exact ⟨_, reviewed⟩
  | withdraw => exact ⟨records, recorded.withdraw⟩

namespace Faithful

/-- A pass begins with the cache of the session. -/
theorem grant (faithful : standing.Faithful keyOf backend options worlds)
    (distinguishes : Distinguishes keyOf (options.IsChunkOf worlds)) {ticket : Ticket}
    (is_for : worlds[ticket.number]? = some ticket.world) :
    (Pass.start keyOf (standing.options.assignment ticket.world) standing.cache).Recorded keyOf
      (options.assignment ticket.world) (Pass.Agrees (options.outcome backend)) [] := by
  rw [faithful.options_eq]
  refine .start ?_
  intro index job answer job_eq kept_eq
  have paragraphs : ∀ chunk ∈ (options.assignment ticket.world).chunks,
      options.IsChunkOf worlds chunk :=
    fun chunk mem => ⟨ticket.world, List.mem_of_getElem? is_for, mem⟩
  exact faithful.cache.outcome_of_kept distinguishes paragraphs job_eq kept_eq

/-- The pass that runs may come further. -/
theorem rerun (faithful : standing.Faithful keyOf backend options worlds)
    {ticket : Ticket} {pass next : Pass Key} (running : standing.running = some (ticket, pass))
    (recorded : ∀ records,
      pass.Recorded keyOf (options.assignment ticket.world)
        (Pass.Agrees (options.outcome backend)) records →
      ∃ more, next.Recorded keyOf (options.assignment ticket.world)
        (Pass.Agrees (options.outcome backend)) more) :
    { standing with running := some (ticket, next) }.Faithful keyOf backend options worlds where
  options_eq := faithful.options_eq
  sleeping := faithful.sleeping
  queue := faithful.queue
  running := by
    intro other run same
    obtain ⟨rfl, rfl⟩ := Prod.mk.inj (Option.some.inj same)
    obtain ⟨is_for, records, pass_recorded⟩ := faithful.running _ pass running
    exact ⟨is_for, recorded records pass_recorded⟩
  cache := faithful.cache

/-- A pass that succeeds leaves a consistent cache. -/
theorem finish (faithful : standing.Faithful keyOf backend options worlds)
    {ticket : Ticket} {pass : Pass Key} {records : List Record}
    (is_for : worlds[ticket.number]? = some ticket.world)
    (recorded : pass.Recorded keyOf (options.assignment ticket.world)
      (Pass.Agrees (options.outcome backend)) records)
    {verdict : Except Abortion (Progress Key)} (ends : pass.verdict? = some verdict) :
    (standing.finish verdict).Faithful keyOf backend options worlds := by
  refine ⟨faithful.options_eq, faithful.sleeping, faithful.queue, by simp [Standing.finish], ?_⟩
  cases verdict with
  | error abortion => exact faithful.cache
  | ok progress =>
      obtain ⟨chunks_eq, rfl⟩ := recorded.of_succeeds ends
      rw [Standing.finish]
      simp only
      rw [Progress.cache_recordAll_start]
      refine Cache.consistent_ofRecords ?_ recorded.answered
      intro record mem
      refine ⟨ticket.world, List.mem_of_getElem? is_for, ?_⟩
      rw [← chunks_eq]
      exact List.mem_map_of_mem mem

/-- Whatever happens to a session, it stays faithful. -/
theorem turn (faithful : standing.Faithful keyOf backend options worlds)
    (distinguishes : Distinguishes keyOf (options.IsChunkOf worlds))
    (turn : standing.Turn keyOf occurrence next notices)
    (next_world : ∀ world, occurrence.world? = some world → worlds[standing.tickets]? = some world)
    (answered : ∀ number place outcome, occurrence = .answer number place outcome →
      ∀ ticket pass, standing.running = some (ticket, pass) → ticket.number = number →
        ∀ task ∈ pass.tasks, task.place = place → task.isAsked = true →
          (pass.assignment.request task.chunk).outcome backend = outcome) :
    next.Faithful keyOf backend options worlds := by
  cases turn with
  | edit world =>
      refine ⟨faithful.options_eq, ?_, faithful.queue, faithful.running, faithful.cache⟩
      intro ticket mem
      obtain rfl := Option.some.inj mem
      exact next_world world rfl
  | check world =>
      refine ⟨faithful.options_eq, faithful.sleeping, ?_, faithful.running, faithful.cache⟩
      intro ticket mem
      rcases List.mem_append.1 mem with mem | mem
      · exact faithful.queue ticket mem
      · obtain rfl := List.mem_singleton.1 mem
        exact next_world world rfl
  | wake number =>
      refine ⟨faithful.options_eq, by simp, ?_, faithful.running, faithful.cache⟩
      intro ticket mem
      rcases List.mem_append.1 mem with mem | mem
      · exact faithful.queue ticket mem
      · exact faithful.sleeping ticket (Option.mem_toList.1 mem)
  | @grant ticket rest idle queue_eq =>
      have tickets_for := faithful.queue
      rw [queue_eq] at tickets_for
      obtain ⟨is_for, rest_for⟩ := List.forall_mem_cons.1 tickets_for
      refine ⟨faithful.options_eq, faithful.sleeping, rest_for, ?_, faithful.cache⟩
      intro other pass same
      obtain ⟨rfl, rfl⟩ := Prod.mk.inj (Option.some.inj same)
      exact ⟨is_for, [], faithful.grant distinguishes is_for⟩
  | ask running launched =>
      exact faithful.rerun running fun records recorded => ⟨records, recorded.launch launched⟩
  | work running moved =>
      refine faithful.rerun running fun records => recorded_moved moved ?_
      exact fun number place outcome same => answered number place outcome same _ _ running
  | finish running ends =>
      obtain ⟨is_for, records, recorded⟩ := faithful.running _ _ running
      obtain ⟨more, reviewed⟩ := recorded.review
      exact faithful.finish is_for reviewed ends
  | cancelEdits =>
      refine ⟨faithful.options_eq, ?_, ?_, ?_, faithful.cache⟩
      · intro ticket mem
        exact faithful.sleeping ticket (Option.filter_eq_some_iff.1 mem).1
      · intro ticket mem
        exact faithful.queue ticket (List.mem_filter.1 mem).1
      · intro ticket pass running
        exact faithful.running ticket pass (Option.filter_eq_some_iff.1 running).1
  | rest unasked => exact faithful

/-- What others see of whatever happens to a session is true. -/
theorem isTrue_turn (faithful : standing.Faithful keyOf backend options worlds)
    (turn : standing.Turn keyOf occurrence next notices) :
    ∀ notice ∈ notices, notice.IsTrue backend options worlds := by
  cases turn with
  | edit world | cancelEdits => exact isTrue_cancelled _
  | check world | wake | grant | work | rest => simp
  | ask =>
      intro notice mem
      obtain rfl := List.mem_singleton.1 mem
      trivial
  | finish running ends =>
      obtain ⟨is_for, records, recorded⟩ := faithful.running _ _ running
      obtain ⟨more, reviewed⟩ := recorded.review
      exact isTrue_endings standing.edits is_for reviewed ends

end Faithful

end Standing

namespace Session

variable {Key : Type} [DecidableEq Key] {keyOf : Text → String → Key} {backend : Backend}
  {options : Options} {worlds : List World} {session : Session Key}

/-- What others see of a session is true, whatever happens to it. -/
theorem isTrue_run (sound : session.Sound)
    (faithful : session.standing.Faithful keyOf backend options worlds)
    (distinguishes : Distinguishes keyOf (options.IsChunkOf worlds)) {occurrences : List Occurrence}
    (rest_eq : worlds.drop session.tickets = asked occurrences)
    (answered : session.AnsweredBy keyOf backend occurrences) :
    ∀ notice ∈ (session.run keyOf occurrences).2, notice.IsTrue backend options worlds := by
  -- The documents without a ticket are those of the occurrences to come, so the next ticket gets
  -- the number of the next document.
  induction occurrences generalizing session with
  | nil => simp [run]
  | cons occurrence rest induction =>
      obtain ⟨first_answered, rest_answered⟩ := answered
      have split_eq : worlds.drop session.tickets = occurrence.world?.toList ++ asked rest := by
        rw [rest_eq, asked, List.filterMap_cons]
        cases occurrence.world? <;> rfl
      have next_world : ∀ world, occurrence.world? = some world →
          worlds[session.tickets]? = some world := by
        intro world world_eq
        rw [world_eq] at split_eq
        have head_eq := congrArg List.head? split_eq
        rwa [List.head?_drop] at head_eq
      have turn := turn_step sound keyOf occurrence
      have next_faithful := faithful.turn distinguishes turn next_world (by
        rintro number place outcome rfl
        exact first_answered)
      have next_rest : worlds.drop (session.step keyOf occurrence).1.tickets = asked rest := by
        rw [tickets_step sound, ← List.drop_drop, split_eq, List.drop_left]
      intro notice mem
      rw [run] at mem
      rcases List.mem_append.1 mem with mem | mem
      · exact faithful.isTrue_turn turn notice mem
      · exact induction (sound.step keyOf occurrence) next_faithful next_rest rest_answered notice
          mem

/-- A cache is transparent where the answers of the server follow from the texts that it is asked
about, and the keys tell these texts apart.  Checks of documents one after the other, each with the
cache that the last one to succeed has left, tell the user what each would tell with an empty cache.
So does a session, whatever happens to it and in whichever order the answers come back: a ticket
that ends with a report or a failure tells what a check of its document with an empty cache does. -/
theorem transparent_cache (keyOf : Text → String → Key) (backend : Backend) (options : Options) :
    (∀ (State : Type) (server : Server State) (state : State) (worlds : List World),
      server.Follows backend → Distinguishes keyOf (options.IsChunkOf worlds) →
        ∀ (Other : Type) (cold : Server Other) (other : Other), cold.Follows backend →
          Check.series keyOf server options state .empty worlds =
            worlds.map fun world =>
              Check.told (Check.run keyOf cold other (options.assignment world) .empty).1) ∧
    ∀ occurrences : List Occurrence,
      Distinguishes keyOf (options.IsChunkOf (asked occurrences)) →
        (start options).AnsweredBy keyOf backend occurrences →
          ∀ number ending told,
            .ended number ending ∈ ((start options).run keyOf occurrences).2 →
              ending.told? = some told →
                ∃ world, (asked occurrences)[number]? = some world ∧
                  ∀ (Other : Type) (cold : Server Other) (other : Other), cold.Follows backend →
                    Check.told (Check.run keyOf cold other (options.assignment world) .empty).1 =
                      told := by
  have cold_verdict : ∀ {worlds : List World} {world : World}, world ∈ worlds →
      Distinguishes keyOf (options.IsChunkOf worlds) → ∀ (Other : Type) (cold : Server Other)
        (other : Other), cold.Follows backend →
          Check.told (Check.run keyOf cold other (options.assignment world) .empty).1 =
            (options.assignment world).verdict backend := by
    intro worlds world world_mem distinguishes Other cold other follows
    exact Check.told_run follows distinguishes Cache.consistent_empty
      (fun chunk mem => ⟨world, world_mem, mem⟩) other
  constructor
  · intro State server state worlds follows distinguishes Other cold other cold_follows
    rw [Check.series_eq follows distinguishes state Cache.consistent_empty (List.Subset.refl _)]
    refine List.map_congr_left fun world world_mem => ?_
    rw [cold_verdict world_mem distinguishes Other cold other cold_follows]
  · intro occurrences distinguishes answered number ending told mem told_eq
    have noticed := isTrue_run (sound_start options) Standing.faithful_start distinguishes
      List.drop_zero answered _ mem
    obtain ⟨world, world_eq, verdict_eq⟩ := noticed told told_eq
    refine ⟨world, world_eq, fun Other cold other follows => ?_⟩
    rw [cold_verdict (List.mem_of_getElem? world_eq) distinguishes Other cold other follows,
      verdict_eq]

/-- A session that checks two equal paragraphs twice, the second time without a request. -/
def twice : List Occurrence :=
  [.check Check.twins.world, .grant, .launch 0, .launch 0, .answer 0 1 (.ok (Check.remark 0)),
    .answer 0 0 (.ok (Check.remark 0)), .review 0, .check Check.twins.world, .grant, .review 1]

theorem transparent_cache_twins :
    (∃ told,
      Check.series Prod.mk (Server.ofFunction fun _ => .ok (Check.remark 0)) Check.twins.options ()
          .empty [Check.twins.world, Check.twins.world] = [told, told] ∧
        Check.told (Check.run Prod.mk (Server.ofFunction fun _ => .ok (Check.remark 0)) ()
          (Check.twins.options.assignment Check.twins.world) .empty).1 = told) ∧
    ∃ report,
      .ended 1 (.report report) ∈ ((start Check.twins.options).run Prod.mk twice).2 ∧
        report.cached = 2 ∧
          Check.told (Check.run Prod.mk (Server.ofFunction fun _ => .ok (Check.remark 0)) ()
            (Check.twins.options.assignment Check.twins.world) .empty).1 = .ok report.told := by
  have follows : (Server.ofFunction fun _ => .ok (Check.remark 0)).Follows
      fun _ _ _ _ => .ok (Check.remark 0) := fun _ _ => rfl
  obtain ⟨checks, sessions⟩ := transparent_cache Prod.mk (fun _ _ _ _ => .ok (Check.remark 0))
    Check.twins.options
  constructor
  · refine ⟨_, ?_, rfl⟩
    rw [checks Unit _ () _ follows (distinguishes_of_injective Prod.mk.inj _) Unit _ () follows]
    rfl
  · have reported : (((start Check.twins.options).run Prod.mk twice).2.any fun notice =>
        match notice with
        | .ended 1 (.report report) => report.cached = 2
        | _ => false) = true := by
      decide +kernel
    obtain ⟨notice, mem, is_report⟩ := List.any_eq_true.1 reported
    split at is_report
    · rename_i report
      have answered : (start Check.twins.options).AnsweredBy Prod.mk
          (fun _ _ _ _ => .ok (Check.remark 0)) twice :=
        ⟨trivial, trivial, trivial, trivial, fun _ _ _ _ _ _ _ _ => rfl,
          fun _ _ _ _ _ _ _ _ => rfl, trivial, trivial, trivial, trivial, trivial⟩
      obtain ⟨world, world_eq, told_eq⟩ := sessions twice
        (distinguishes_of_injective Prod.mk.inj _) answered 1 _ _ mem rfl
      obtain rfl := Option.some.inj world_eq
      exact ⟨report, mem, of_decide_eq_true is_report, told_eq Unit _ () follows⟩
    · exact absurd is_report Bool.false_ne_true

end Session
end ProseCheck
