import ProseCheck.Proofs.Session.Endings

/-!
# Passes one after the other

The milestones of a session are read off what it holds before and after each step: a pass that was
not there begins, one that is no longer there has ended, and in between requests go out.  However
edits, checks and answers come, the milestones are those of passes one after the other, each of
which begins with the cache of the last one that succeeded and runs to its verdict.
-/

namespace ProseCheck

/-- What a session does with its passes. -/
inductive Milestone (Key : Type) where
  /-- The pass of a ticket is there for the first time. -/
  | begins (ticket : Ticket) (pass : Pass Key)
  /-- A request goes out. -/
  | asks (request : Request)
  /-- The pass of a ticket is no longer there; it had a verdict or was cut short. -/
  | ends (ticket : Ticket) (verdict : Option (Except Abortion (Progress Key)))

/-- The request that goes out. -/
def Notice.request? : Notice → Option Request
  | .request _ sent => some sent
  | .ended _ _ | .delivered _ _ => none

namespace Milestone

variable {Key : Type}

/-- The ticket whose pass is under way after a milestone. -/
def advance (underWay : Option Ticket) : Milestone Key → Option Ticket
  | .begins ticket _ => some ticket
  | .asks _ => underWay
  | .ends _ _ => none

/-- The ticket whose pass is under way after some milestones. -/
def underWay (milestones : List (Milestone Key)) : Option Ticket := milestones.foldl advance none

/-- The cache that a pass leaves if it succeeds. -/
def left? : Milestone Key → Option (Cache Key)
  | .ends _ (some (.ok progress)) => some progress.cache
  | .ends _ (some (.error _)) | .ends _ none | .begins _ _ | .asks _ => none

theorem underWay_concat (milestones : List (Milestone Key)) (milestone : Milestone Key) :
    underWay (milestones ++ [milestone]) = milestone.advance (underWay milestones) := by
  rw [underWay, List.foldl_append]
  rfl

/-- The cache of the last pass that succeeded; before the first one it is empty. -/
def lastCache (milestones : List (Milestone Key)) : Cache Key :=
  (milestones.filterMap left?).getLast?.getD .empty

theorem lastCache_concat (milestones : List (Milestone Key)) (milestone : Milestone Key) :
    lastCache (milestones ++ [milestone]) = milestone.left?.getD (lastCache milestones) := by
  rw [lastCache, List.filterMap_append]
  cases left_eq : milestone.left? with
  | none =>
      rw [List.filterMap_cons_none left_eq, List.filterMap_nil, List.append_nil]
      rfl
  | some cache =>
      rw [List.filterMap_cons_some left_eq, List.filterMap_nil, List.getLast?_concat]
      rfl

variable [DecidableEq Key]

/-- What a milestone is where passes run one after the other: a pass begins where none is under way,
with the cache of the last one that succeeded; requests are for chunks of the document of the pass
under way; and nothing ends but that pass, by a verdict that it came to from where it began. -/
def Follows (keyOf : Text → String → Key) (options : Options) (before : List (Milestone Key)) :
    Milestone Key → Prop
  | .begins ticket pass =>
    underWay before = none ∧
      pass = .start keyOf (options.assignment ticket.world) (lastCache before)
  | .asks request =>
    ∃ ticket, underWay before = some ticket ∧
      ∃ chunk ∈ (options.assignment ticket.world).chunks,
        request = (options.assignment ticket.world).request chunk
  | .ends ticket verdict =>
    underWay before = some ticket ∧
      ∃ pass ending,
        Pass.Reached keyOf (options.assignment ticket.world) (lastCache before) pass ∧
          pass.verdict? = some ending ∧ verdict = some ending

end Milestone

namespace Standing

open Session Milestone

variable {Key : Type}

/-- Whether the pass of a ticket runs. -/
def runs (standing : Standing Key) (ticket : Ticket) : Bool :=
  standing.running.any fun run => run.1.number = ticket.number

theorem runs_running {standing : Standing Key} {ticket : Ticket} {pass : Pass Key}
    (running : standing.running = some (ticket, pass)) : standing.runs ticket = true := by
  rw [runs, running]
  exact decide_eq_true rfl

/-- The end of a pass sends no request. -/
theorem request_endings (edits : Nat) (pass : Pass Key) (ticket : Ticket)
    (verdict : Except Abortion (Progress Key)) :
    (endings edits pass ticket verdict).filterMap Notice.request? = [] := by
  rcases endings_cases edits pass ticket verdict with
    ⟨progress, -, -, endings_eq⟩ | ⟨ending, -, endings_eq⟩
  · rw [endings_eq]
    rfl
  · rw [endings_eq]
    rfl

/-- The pass that runs next, if it did not run before. -/
def begun (standing next : Standing Key) : List (Milestone Key) :=
  match next.running with
  | some (ticket, pass) => if standing.runs ticket then [] else [.begins ticket pass]
  | none => []

variable [DecidableEq Key] {keyOf : Text → String → Key} {options : Options}
  {standing next : Standing Key} {occurrence : Occurrence} {notices : List Notice}
  {past : List (Milestone Key)}

/-- The pass that runs, if it does not run next. -/
def ceased (keyOf : Text → String → Key) (standing next : Standing Key) : List (Milestone Key) :=
  match standing.running with
  | some (ticket, pass) =>
    if next.runs ticket then [] else [.ends ticket (pass.review keyOf).verdict?]
  | none => []

/-- Milestones between two states of a standing. -/
def milestonesTo (keyOf : Text → String → Key) (standing next : Standing Key)
    (notices : List Notice) : List (Milestone Key) :=
  standing.ceased keyOf next ++ (notices.filterMap Notice.request?).map .asks ++ standing.begun next

/-- Where the same pass goes on, requests alone are milestones. -/
theorem milestonesTo_rerun {ticket : Ticket} {pass after : Pass Key}
    (running : standing.running = some (ticket, pass))
    (next_running : next.running = some (ticket, after)) (notices : List Notice) :
    standing.milestonesTo keyOf next notices = (notices.filterMap Notice.request?).map .asks := by
  rw [milestonesTo, ceased, begun, running, next_running]
  simp only
  rw [if_pos (runs_running next_running), if_pos (runs_running running), List.nil_append,
    List.append_nil]

/-- And so they are where the running pass is left as it is. -/
theorem milestonesTo_still (same : next.running = standing.running) (notices : List Notice) :
    standing.milestonesTo keyOf next notices = (notices.filterMap Notice.request?).map .asks := by
  cases running : standing.running with
  | none =>
      rw [milestonesTo, ceased, begun, same, running]
      exact List.append_nil _
  | some run => exact milestonesTo_rerun running (same.trans running) notices

/-- Where no pass ran, the one that runs next begins. -/
theorem milestonesTo_begins {ticket : Ticket} {pass : Pass Key} (idle : standing.running = none)
    (next_running : next.running = some (ticket, pass))
    (silent : notices.filterMap Notice.request? = []) :
    standing.milestonesTo keyOf next notices = [.begins ticket pass] := by
  simp [milestonesTo, ceased, begun, runs, idle, next_running, silent]

/-- Where no pass runs next, the one that ran is over. -/
theorem milestonesTo_ends {ticket : Ticket} {pass : Pass Key}
    (running : standing.running = some (ticket, pass)) (idle : next.running = none)
    (silent : notices.filterMap Notice.request? = []) :
    standing.milestonesTo keyOf next notices = [.ends ticket (pass.review keyOf).verdict?] := by
  simp [milestonesTo, ceased, begun, runs, running, idle, silent]

/-- Milestones that recount what became of a session: its passes ran one after the other, the one
that runs is under way, and its cache is that of the last pass that succeeded. -/
structure RecountedBy (keyOf : Text → String → Key) (options : Options)
    (past : List (Milestone Key)) (standing : Standing Key) : Prop where
  follows : ∀ before milestone after, past = before ++ milestone :: after →
    milestone.Follows keyOf options before
  underWay_eq : underWay past = standing.running.map Prod.fst
  cache_eq : lastCache past = standing.cache

namespace RecountedBy

theorem start (keyOf : Text → String → Key) (options : Options) :
    RecountedBy keyOf options [] (Session.start options).standing where
  follows := by simp
  underWay_eq := rfl
  cache_eq := rfl

/-- One milestone more. -/
theorem concat (recounted : RecountedBy keyOf options past standing)
    {milestone : Milestone Key} (follows : milestone.Follows keyOf options past)
    (underWay_eq : milestone.advance (underWay past) = next.running.map Prod.fst)
    (cache_eq : milestone.left?.getD (lastCache past) = next.cache) :
    RecountedBy keyOf options (past ++ [milestone]) next where
  follows := by
    intro before other after split
    rcases List.eq_nil_or_concat after with rfl | ⟨rest, last, rfl⟩
    · obtain ⟨rfl, same⟩ := List.append_inj' split rfl
      obtain rfl := List.singleton_inj.1 same
      exact follows
    · rw [List.concat_eq_append, ← List.cons_append, ← List.append_assoc] at split
      exact recounted.follows before other rest (List.append_inj' split rfl).1
  underWay_eq := by rw [underWay_concat, underWay_eq]
  cache_eq := by rw [lastCache_concat, cache_eq]

/-- No milestone more, where neither the ticket of the running pass nor the cache changes. -/
theorem still (recounted : RecountedBy keyOf options past standing)
    (same_ticket : next.running.map Prod.fst = standing.running.map Prod.fst)
    (same_cache : next.cache = standing.cache) : RecountedBy keyOf options past next where
  follows := recounted.follows
  underWay_eq := by rw [recounted.underWay_eq, same_ticket]
  cache_eq := by rw [recounted.cache_eq, same_cache]

/-- So it is where the running pass is left as it is and sends nothing. -/
theorem quiet (recounted : RecountedBy keyOf options past standing)
    (same_running : next.running = standing.running) (same_cache : next.cache = standing.cache)
    (silent : notices.filterMap Notice.request? = []) :
    RecountedBy keyOf options (past ++ standing.milestonesTo keyOf next notices) next := by
  rw [milestonesTo_still same_running, silent, List.map_nil, List.append_nil]
  exact recounted.still (by rw [same_running]) same_cache

/-- Short of the end of all edits, the milestones of a turn continue those before. -/
theorem turn (recounted : RecountedBy keyOf options past standing)
    (begun : standing.Begun keyOf options) (turn : standing.Turn keyOf occurrence next notices)
    (goes_on : occurrence ≠ .cancelEdits) :
    RecountedBy keyOf options (past ++ standing.milestonesTo keyOf next notices) next := by
  cases turn with
  | edit world =>
      refine recounted.quiet rfl rfl ?_
      rw [cancelled, List.filterMap_map, List.filterMap_eq_nil_iff]
      exact fun _ _ => rfl
  | check world | wake | rest => exact recounted.quiet rfl rfl rfl
  | @grant ticket rest idle queue_eq =>
      have idle_before : underWay past = none := by rw [recounted.underWay_eq, idle]; rfl
      rw [milestonesTo_begins idle rfl rfl]
      refine recounted.concat ⟨idle_before, ?_⟩ rfl recounted.cache_eq
      rw [begun.options_eq, recounted.cache_eq]
  | @ask ticket pass after task running launched =>
      rw [milestonesTo_rerun running rfl]
      obtain ⟨chunk, chunk_mem, request_eq⟩ :=
        (begun.running ticket pass running).request_of_launch launched
      have under_way : underWay past = some ticket := by
        rw [recounted.underWay_eq, running]
        rfl
      exact recounted.concat ⟨ticket, under_way, chunk, chunk_mem, request_eq⟩ under_way
        recounted.cache_eq
  | @work _ ticket pass after running moved =>
      rw [milestonesTo_rerun running rfl, List.filterMap_nil, List.map_nil, List.append_nil]
      refine recounted.still ?_ rfl
      rw [running]
      rfl
  | @finish ticket pass verdict running ends =>
      have reached := (begun.running ticket pass running).review
      have under_way : underWay past = some ticket := by
        rw [recounted.underWay_eq, running]
        rfl
      rw [milestonesTo_ends running rfl (request_endings standing.edits _ ticket verdict), ends]
      refine recounted.concat
        ⟨under_way, _, verdict, recounted.cache_eq ▸ reached, ends, rfl⟩ rfl ?_
      cases verdict with
      | ok progress => rfl
      | error abortion => exact recounted.cache_eq
  | cancelEdits => contradiction

end RecountedBy
end Standing

namespace Session

open Milestone

variable {Key : Type} [DecidableEq Key] {keyOf : Text → String → Key} {options : Options}
  {session : Session Key} {past : List (Milestone Key)}

/-- Milestones of whatever happens to a session. -/
def milestones (keyOf : Text → String → Key) (session : Session Key) :
    List Occurrence → List (Milestone Key)
  | [] => []
  | occurrence :: rest =>
    let (next, notices) := session.step keyOf occurrence
    session.standing.milestonesTo keyOf next.standing notices ++ next.milestones keyOf rest

/-- So do those of whatever happens. -/
theorem recounted_run (sound : session.Sound)
    (recounted : Standing.RecountedBy keyOf options past session.standing)
    (begun : session.standing.Begun keyOf options) {occurrences : List Occurrence}
    (unclosed : .cancelEdits ∉ occurrences) :
    Standing.RecountedBy keyOf options (past ++ session.milestones keyOf occurrences)
      (session.run keyOf occurrences).1.standing := by
  induction occurrences generalizing session past with
  | nil => rwa [Session.milestones, List.append_nil]
  | cons occurrence rest induction =>
      obtain ⟨goes_on, rest_goes_on⟩ := not_or.1 fun closes => unclosed (List.mem_cons.2 closes)
      have turned := turn_step sound keyOf occurrence
      have later := induction (sound.step keyOf occurrence)
        (recounted.turn begun turned (Ne.symm goes_on)) (turned.begun begun) rest_goes_on
      rw [List.append_assoc] at later
      exact later

/-- An edit cancels the errand that sleeps, whether its timer has gone off or not, and no other. -/
theorem cancelled_edit_iff (sound : session.Sound) (keyOf : Text → String → Key) (world : World)
    (number : Nat) :
    .ended number .cancelled ∈ (session.step keyOf (.edit world)).2 ↔
      session.isAt number Phase.isAsleep = true := by
  rw [(standing_edit sound keyOf world).2, sound.asleep_iff]
  constructor
  · intro mem
    obtain ⟨_, number_mem, ended⟩ := List.mem_map.1 mem
    obtain ⟨ticket, sleeps, rfl⟩ := List.mem_map.1 number_mem
    exact ⟨ticket, Option.mem_toList.1 sleeps, (Notice.ended.inj ended).1⟩
  · rintro ⟨ticket, sleeps, rfl⟩
    exact List.mem_map_of_mem (List.mem_map_of_mem (Option.mem_toList.2 sleeps))

/-- Unless all edits are cancelled, a session runs its passes one after the other whatever happens.
No two errands run a pass at once.  Each milestone follows those before: a pass begins where none is
under way, with the cache of the last one that succeeded, sends requests for chunks of its own
document, and runs to a verdict of its own.  The cache of the session is always that of the last
pass that succeeded, so one that fails leaves it as it was.  The slot always holds just the errand
that sleeps, even if its timer has gone off and it has not gone on yet.  An edit cancels this
errand, and leaves every other as it is; nothing else cancels any.  So a ticket whose pass runs or
will run is never cancelled. -/
theorem single_writer (keyOf : Text → String → Key) (options : Options)
    (occurrences : List Occurrence) (unclosed : .cancelEdits ∉ occurrences) (session : Session Key)
    (session_eq : ((start options).run keyOf occurrences).1 = session) :
    (∀ number other, session.isAt number Phase.isRunning = true →
      session.isAt other Phase.isRunning = true → number = other) ∧
    (∀ before milestone after,
      (start options).milestones keyOf occurrences = before ++ milestone :: after →
        milestone.Follows keyOf options before) ∧
    underWay ((start options).milestones keyOf occurrences) = session.running.map Prod.fst ∧
    lastCache ((start options).milestones keyOf occurrences) = session.cache ∧
    (∀ number, session.waiting = some number ↔ session.isAt number Phase.isAsleep = true) ∧
    (∀ world number,
      (.ended number .cancelled ∈ (session.step keyOf (.edit world)).2 ↔
        session.isAt number Phase.isAsleep = true) ∧
      (number < session.tickets → session.isAt number Phase.isAsleep = false →
        (session.step keyOf (.edit world)).1.errands[number]? = session.errands[number]?)) ∧
    (∀ occurrence number, .ended number .cancelled ∈ (session.step keyOf occurrence).2 →
      occurrence = .cancelEdits ∨ ∃ world, occurrence = .edit world) ∧
    ∀ before after, occurrences = before ++ after →
      ∀ ticket ∈ ((start options).run keyOf before).1.engaged,
        .ended ticket.number .cancelled ∉ ((start options).run keyOf occurrences).2 := by
  subst session_eq
  have sound := (sound_start options : (start options : Session Key).Sound).run keyOf occurrences
  have recounted := recounted_run (sound_start options)
    (Standing.RecountedBy.start keyOf options) (Standing.begun_start keyOf options) unclosed
  have sleeps := (slotSleeps_start options).run (sound_start options) keyOf unclosed
  rw [List.nil_append] at recounted
  refine ⟨sound.lock.alone, recounted.follows, recounted.underWay_eq, recounted.cache_eq,
    fun number => ⟨sleeps number, sound.slot.of_asleep number⟩, ?_, ?_, ?_⟩
  · intro world number
    exact ⟨cancelled_edit_iff sound keyOf world number, sound.getElem?_edit world⟩
  · intro occurrence number cancels
    by_cases closes : occurrence = .cancelEdits
    · exact .inl closes
    · exact .inr ((turn_step sound keyOf occurrence).of_cancelled closes cancels).1
  · rintro before after rfl ticket mem
    exact not_cancelled_of_engaged keyOf options unclosed mem

/-- The pass of an edit runs, another edit waits for it, and the timer of a third has gone off. -/
def stirred : List Occurrence := crowded ++ [.fire 2]

/-- A fourth edit comes, the pass comes to its end, and the next one begins. -/
def rush : List Occurrence := stirred ++ .edit (note ['D']) :: relieved

theorem single_writer_rush :
    .cancelEdits ∉ rush ∧
      (underWay ((start Check.twins.options).milestones Prod.mk rush)).map Ticket.edit =
        some (some 2) ∧
      (lastCache ((start Check.twins.options).milestones Prod.mk rush)).size = 1 ∧
      (∃ ticket ∈ ((start Check.twins.options).run Prod.mk stirred).1.engaged,
        ticket.edit = some 2 ∧
          .ended ticket.number .cancelled ∉ ((start Check.twins.options).run Prod.mk rush).2) ∧
      ((start Check.twins.options).run Prod.mk stirred).1.waiting = some 2 ∧
      ∀ number, .ended number .cancelled ∈
        (((start Check.twins.options).run Prod.mk stirred).1.step Prod.mk (.edit (note ['D']))).2 ↔
          number = 2 := by
  have unclosed : .cancelEdits ∉ rush := by simp [rush, stirred, crowded, relieved]
  have unclosed_before : .cancelEdits ∉ stirred := by simp [stirred, crowded]
  obtain ⟨-, -, underWay_eq, cache_eq, -, -, -, spared⟩ :=
    single_writer Prod.mk Check.twins.options rush unclosed _ rfl
  obtain ⟨-, -, -, -, slot_iff, edits, -, -⟩ :=
    single_writer Prod.mk Check.twins.options stirred unclosed_before _ rfl
  have in_slot : ((start Check.twins.options).run Prod.mk stirred).1.waiting = some 2 := rfl
  refine ⟨unclosed, ?_, ?_, ?_, in_slot, ?_⟩
  · rw [underWay_eq]
    rfl
  · rw [cache_eq]
    decide +kernel
  · obtain ⟨ticket, mem, edit_eq⟩ :
        ∃ ticket ∈ ((start Check.twins.options).run Prod.mk stirred).1.engaged,
          ticket.edit = some 2 :=
      ⟨_, List.mem_cons_of_mem _ List.mem_cons_self, rfl⟩
    exact ⟨ticket, mem, edit_eq, spared stirred _ rfl ticket mem⟩
  · intro number
    rw [(edits (note ['D']) number).1, ← slot_iff, in_slot, Option.some.injEq]
    exact eq_comm

end Session
end ProseCheck
