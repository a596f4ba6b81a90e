import ProseCheck.Proofs.Session.Turn

/-!
# The line of edits

The tickets of edits stand in line, with the one whose pass runs at the front and the one that
sleeps at the end.  A turn takes tickets out of the line and puts new ones at its end, but never
changes their order, so edits are delivered in the order in which they came.  A pass that ends after
a newer edit has come is not delivered, so the report that is delivered is always about the newest
document.
-/

namespace ProseCheck

/-- The edit whose report is delivered. -/
def Notice.delivered? : Notice → Option Nat
  | .delivered edit _ => some edit
  | .request _ _ | .ended _ _ => none

namespace Standing

open Session

variable {Key : Type}

/-- Tickets of edits that have not come to an end, in order. -/
def awaited (standing : Standing Key) : List Ticket :=
  (standing.engaged ++ standing.sleeping.toList).filter fun ticket => ticket.edit.isSome

theorem mem_awaited_of_running {standing : Standing Key} {ticket : Ticket} {pass : Pass Key}
    (running : standing.running = some (ticket, pass)) {edit : Nat}
    (edit_eq : ticket.edit = some edit) : ticket ∈ standing.awaited := by
  refine List.mem_filter.2 ⟨?_, by rw [edit_eq]; rfl⟩
  rw [engaged_running running]
  exact List.mem_cons_self

/-- Another pass of the same ticket leaves the line as it is. -/
theorem awaited_rerun {standing : Standing Key} {ticket : Ticket} {pass : Pass Key}
    (running : standing.running = some (ticket, pass)) (next : Pass Key) :
    { standing with running := some (ticket, next) }.awaited = standing.awaited := by
  rw [awaited, awaited, engaged_rerun running]

/-- The end of a pass takes its ticket from the line. -/
theorem awaited_finish {standing : Standing Key} {ticket : Ticket} {pass : Pass Key}
    (running : standing.running = some (ticket, pass)) (verdict : Except Abortion (Progress Key)) :
    standing.awaited =
      [ticket].filter (fun ticket => ticket.edit.isSome) ++ (standing.finish verdict).awaited := by
  rw [awaited, engaged_running running, List.cons_append, ← List.singleton_append,
    List.filter_append]
  rfl

/-- Cancelled tickets are not delivered. -/
theorem delivered_cancelled (numbers : List Nat) :
    (cancelled numbers).filterMap Notice.delivered? = [] := by
  rw [cancelled, List.filterMap_map, List.filterMap_eq_nil_iff]
  exact fun _ _ => rfl

/-- The end of a pass delivers nothing but the edit of its ticket. -/
theorem delivered_endings (edits : Nat) (pass : Pass Key) (ticket : Ticket)
    (verdict : Except Abortion (Progress Key)) :
    ∃ heard : List Ticket,
      heard.map Ticket.edit =
          ((endings edits pass ticket verdict).filterMap Notice.delivered?).map some ∧
        heard.Sublist ([ticket].filter fun ticket => ticket.edit.isSome) := by
  rcases endings_cases edits pass ticket verdict with
    ⟨progress, -, edit_eq, endings_eq⟩ | ⟨ending, -, endings_eq⟩
  · refine ⟨[ticket], ?_, ?_⟩
    · rw [endings_eq, List.map_singleton, edit_eq]
      rfl
    · rw [List.filter_cons_of_pos (by rw [edit_eq]; rfl)]
      exact List.Sublist.refl _
  · exact ⟨[], by rw [endings_eq]; rfl, List.nil_sublist _⟩

/-- Once all edits are cancelled, none is left in line. -/
theorem awaited_withoutEdits (standing : Standing Key) : standing.withoutEdits.awaited = [] := by
  refine List.filter_eq_nil_iff.2 fun ticket mem => ?_
  rw [Bool.not_eq_true, Option.isSome_eq_false_iff]
  rcases List.mem_append.1 mem with mem | mem
  · rcases List.mem_append.1 mem with mem | mem
    · obtain ⟨⟨other, pass⟩, run_mem, rfl⟩ := List.mem_map.1 mem
      exact (Option.filter_eq_some_iff.1 (Option.mem_toList.1 run_mem)).2
    · exact (List.mem_filter.1 mem).2
  · exact (Option.filter_eq_some_iff.1 (Option.mem_toList.1 mem)).2

variable [DecidableEq Key] {keyOf : Text → String → Key} {standing next : Standing Key}
  {occurrence : Occurrence} {notices : List Notice}

/-- The line loses the tickets that come to an end, in order, and no more than those are delivered.
An edit goes to its end. -/
theorem Turn.line (turn : standing.Turn keyOf occurrence next notices) :
    ∃ heard : List Ticket,
      heard.map Ticket.edit = (notices.filterMap Notice.delivered?).map some ∧
        (heard ++ next.awaited).Sublist
          (standing.awaited ++ occurrence.edited?.toList.map standing.issued) := by
  cases turn with
  | edit world =>
      refine ⟨[], by rw [delivered_cancelled]; rfl, ?_⟩
      -- The sleeping edit makes way for the new one.
      rw [List.nil_append, awaited, List.filter_append, awaited, List.filter_append]
      exact (List.sublist_append_left _ _).append (List.Sublist.refl _)
  | check world =>
      refine ⟨[], rfl, ?_⟩
      simp [awaited, engaged]
  | wake =>
      refine ⟨[], rfl, ?_⟩
      simp [awaited, engaged]
  | grant idle queue_eq =>
      refine ⟨[], rfl, ?_⟩
      simp [awaited, engaged, idle, queue_eq]
  | @ask ticket pass next task running launched =>
      refine ⟨[], rfl, ?_⟩
      rw [awaited_rerun running]
      exact List.sublist_append_left _ _
  | @work _ ticket pass next running moved =>
      refine ⟨[], rfl, ?_⟩
      rw [awaited_rerun running]
      exact List.sublist_append_left _ _
  | @finish ticket pass verdict running ends =>
      obtain ⟨heard, heard_eq, heard_sublist⟩ :=
        delivered_endings standing.edits (pass.review keyOf) ticket verdict
      refine ⟨heard, heard_eq, ?_⟩
      rw [awaited_finish running verdict]
      exact (heard_sublist.append (List.Sublist.refl _)).trans (List.sublist_append_left _ _)
  | cancelEdits =>
      refine ⟨[], by rw [delivered_cancelled]; rfl, ?_⟩
      rw [awaited_withoutEdits]
      exact List.nil_sublist _
  | rest unasked => exact ⟨[], rfl, List.sublist_append_left _ _⟩

end Standing

namespace Session

variable {Key : Type} [DecidableEq Key] {keyOf : Text → String → Key} {session : Session Key}

/-- Tickets of the edits among some occurrences. -/
def issuedBy (keyOf : Text → String → Key) (session : Session Key) : List Occurrence → List Ticket
  | [] => []
  | occurrence :: rest =>
    occurrence.edited?.toList.map session.standing.issued ++
      (session.step keyOf occurrence).1.issuedBy keyOf rest

/-- Whatever happens, edits are delivered in the order of the line, and those that are left stand
behind them. -/
theorem line_run (sound : session.Sound) (keyOf : Text → String → Key)
    (occurrences : List Occurrence) :
    ∃ heard : List Ticket,
      heard.map Ticket.edit =
          ((session.run keyOf occurrences).2.filterMap Notice.delivered?).map some ∧
        (heard ++ (session.run keyOf occurrences).1.standing.awaited).Sublist
          (session.standing.awaited ++ session.issuedBy keyOf occurrences) := by
  induction occurrences generalizing session with
  | nil => exact ⟨[], rfl, List.sublist_append_left _ _⟩
  | cons occurrence rest induction =>
      obtain ⟨heard, heard_eq, line⟩ := (turn_step sound keyOf occurrence).line
      obtain ⟨later, later_eq, line_rest⟩ := induction (sound.step keyOf occurrence)
      refine ⟨heard ++ later, ?_, ?_⟩
      · rw [List.map_append, heard_eq, later_eq, ← List.map_append, ← List.filterMap_append]
        rfl
      · have moved := line.append (List.Sublist.refl
          ((session.step keyOf occurrence).1.issuedBy keyOf rest))
        rw [List.append_assoc, List.append_assoc] at moved
        rw [List.append_assoc]
        exact ((List.Sublist.refl heard).append line_rest).trans moved

/-- Edits get tickets with their documents, numbered in the order in which they come. -/
theorem map_issuedBy (sound : session.Sound) (keyOf : Text → String → Key)
    (occurrences : List Occurrence) :
    (session.issuedBy keyOf occurrences).map (fun ticket => (ticket.edit, ticket.world)) =
      (edited occurrences).mapIdx fun index world => (some (session.edits + index + 1), world) := by
  induction occurrences generalizing session with
  | nil => rfl
  | cons occurrence rest induction =>
      rw [issuedBy, List.map_append, induction (sound.step keyOf occurrence), edited_cons,
        edits_step sound]
      cases occurrence.edited? with
      | none => rfl
      | some world =>
          rw [Option.toList_some, List.singleton_append, List.mapIdx_cons]
          refine congrArg (List.cons _) (congrArg (List.mapIdx · (edited rest)) ?_)
          funext index later
          rw [List.length_singleton, Nat.add_assoc session.edits, Nat.add_comm 1]

/-- So the ticket of an edit is for the document of that edit. -/
theorem of_mem_issuedBy (sound : session.Sound) {occurrences : List Occurrence} {ticket : Ticket}
    (mem : ticket ∈ session.issuedBy keyOf occurrences) :
    ∃ index, ticket.edit = some (session.edits + index + 1) ∧
      (edited occurrences)[index]? = some ticket.world := by
  have pair_mem : (ticket.edit, ticket.world) ∈
      (session.issuedBy keyOf occurrences).map fun ticket => (ticket.edit, ticket.world) :=
    List.mem_map_of_mem mem
  rw [map_issuedBy sound] at pair_mem
  obtain ⟨index, inside, pair_eq⟩ := List.mem_mapIdx.1 pair_mem
  obtain ⟨edit_eq, world_eq⟩ := Prod.mk.inj pair_eq
  exact ⟨index, edit_eq.symm, List.getElem?_eq_some_iff.2 ⟨inside, world_eq⟩⟩

/-- And the numbers of edits follow each other. -/
theorem filterMap_edit_issuedBy (sound : session.Sound) (keyOf : Text → String → Key)
    (occurrences : List Occurrence) :
    (session.issuedBy keyOf occurrences).filterMap Ticket.edit =
      List.range' (session.edits + 1) (edited occurrences).length := by
  induction occurrences generalizing session with
  | nil => rfl
  | cons occurrence rest induction =>
      rw [issuedBy, List.filterMap_append, induction (sound.step keyOf occurrence), edited_cons,
        edits_step sound]
      cases occurrence.edited? with
      | none => rfl
      | some world =>
          rw [Option.toList_some, List.singleton_append, List.length_singleton, List.length_cons,
            List.range'_succ]
          rfl

section

variable (keyOf : Text → String → Key) (options : Options) (occurrences : List Occurrence)

theorem edits_run_start :
    ((start options).run keyOf occurrences).1.edits = (edited occurrences).length := by
  rw [edits_run (sound_start options), start, Nat.zero_add]

/-- Edits of a session are delivered in the order of their numbers, and those that have not come to
an end are newer. -/
theorem delivered_in_order :
    (((start options).run keyOf occurrences).2.filterMap Notice.delivered? ++
        ((start options).run keyOf occurrences).1.standing.awaited.filterMap Ticket.edit).Pairwise
      (· < ·) := by
  obtain ⟨heard, heard_eq, line⟩ := line_run (sound_start options) keyOf occurrences
  have numbers_line := line.filterMap Ticket.edit
  have delivered_eq : heard.filterMap Ticket.edit =
      ((start options).run keyOf occurrences).2.filterMap Notice.delivered? := by
    have numbers_eq := congrArg (List.filterMap id) heard_eq
    rw [List.filterMap_map, List.filterMap_map] at numbers_eq
    exact numbers_eq.trans List.filterMap_some
  rw [List.filterMap_append, delivered_eq, List.filterMap_append,
    filterMap_edit_issuedBy (sound_start options)] at numbers_line
  have ordered : (List.range' ((start options : Session Key).edits + 1)
      (edited occurrences).length).Pairwise (· < ·) := List.pairwise_lt_range'
  exact ordered.sublist numbers_line

/-- The edit that sleeps is newer than those whose passes run or will run. -/
theorem lt_sleeping {ticket other : Ticket} {edit newest : Nat}
    (mem : ticket ∈ ((start options).run keyOf occurrences).1.engaged)
    (edit_eq : ticket.edit = some edit)
    (sleeps : other ∈ ((start options).run keyOf occurrences).1.sleeping)
    (newest_eq : other.edit = some newest) : edit < newest := by
  have ordered := delivered_in_order keyOf options occurrences
  rw [Standing.awaited, List.filterMap_filter, List.filterMap_append] at ordered
  obtain ⟨-, line_ordered, -⟩ := List.pairwise_append.1 ordered
  obtain ⟨-, -, engaged_lt⟩ := List.pairwise_append.1 line_ordered
  refine engaged_lt edit (List.mem_filterMap.2 ⟨ticket, mem, ?_⟩) newest
    (List.mem_filterMap.2 ⟨other, Option.mem_toList.2 sleeps, ?_⟩)
  · rw [edit_eq]
    rfl
  · rw [newest_eq]
    rfl

/-- A ticket in line is for the document of its edit. -/
theorem of_mem_awaited {ticket : Ticket}
    (mem : ticket ∈ ((start options).run keyOf occurrences).1.standing.awaited) :
    ∃ index, ticket.edit = some (index + 1) ∧
      (edited occurrences)[index]? = some ticket.world := by
  obtain ⟨heard, -, line⟩ := line_run (sound_start options) keyOf occurrences
  obtain ⟨index, edit_eq, world_eq⟩ :=
    of_mem_issuedBy (sound_start options) (line.subset (List.mem_append_right heard mem))
  refine ⟨index, ?_, world_eq⟩
  rw [edit_eq, start, Nat.zero_add]

end

/-! ## What is delivered -/

/-- Whatever happens to a session, a report that is delivered is that of the newest edit so far: it
comes of a pass over the document of this edit, which began with the cache that the session has.
The edits that are delivered get newer and newer, so none is delivered twice. -/
theorem newest_delivered (keyOf : Text → String → Key) (options : Options)
    (occurrences : List Occurrence) :
    (∀ occurrence edit report,
      .delivered edit report ∈
          (((start options).run keyOf occurrences).1.step keyOf occurrence).2 →
        edit = (edited occurrences).length ∧
          ∃ world, (edited occurrences).getLast? = some world ∧
            ∃ pass progress,
              Pass.Reached keyOf (options.assignment world)
                  ((start options).run keyOf occurrences).1.cache pass ∧
                pass.verdict? = some (.ok progress) ∧
                  report = Check.report pass.size progress) ∧
    (((start options).run keyOf occurrences).2.filterMap Notice.delivered?).Pairwise (· < ·) := by
  constructor
  · intro occurrence edit report mem
    have sound := (sound_start options : (start options : Session Key).Sound).run keyOf occurrences
    obtain ⟨ticket, pass, progress, running, ends, edit_eq, rfl, report_eq⟩ :=
      (turn_step sound keyOf occurrence).of_delivered mem
    have edits_eq : ((start options).run keyOf occurrences).1.standing.edits =
        (edited occurrences).length := edits_run_start keyOf options occurrences
    obtain ⟨index, index_eq, world_eq⟩ :=
      of_mem_awaited keyOf options occurrences (Standing.mem_awaited_of_running running edit_eq)
    have is_last : index = (edited occurrences).length - 1 := by
      rw [edit_eq, edits_eq] at index_eq
      have := Option.some.inj index_eq
      omega
    have reached := (begun_run (sound_start options) (Standing.begun_start keyOf options)
      occurrences).running ticket pass running
    refine ⟨edits_eq, ticket.world, ?_, pass.review keyOf, progress, .review reached, ends,
      report_eq⟩
    rw [List.getLast?_eq_getElem?, ← is_last, world_eq]
  · exact (List.pairwise_append.1 (delivered_in_order keyOf options occurrences)).1

/-- A document of one word. -/
def note (word : Text) : World := .ofSource (.ofTree "main" (.inner .markup [.leaf .text word]))

/-- An edit comes while the pass of another one runs, and gets its own pass in the end. -/
def revised : List Occurrence :=
  [.edit (note ['A']), .fire 0, .wake 0, .grant, .launch 0, .edit (note ['B']),
    .answer 0 0 (.ok []), .review 0, .fire 1, .wake 1, .grant, .launch 1, .answer 1 0 (.ok [])]

theorem newest_delivered_revised :
    ∃ report pass progress,
      .delivered 2 report ∈
          (((start Check.twins.options).run Prod.mk revised).1.step Prod.mk (.review 1)).2 ∧
        Pass.Reached Prod.mk (Check.twins.options.assignment (note ['B']))
            ((start Check.twins.options).run Prod.mk revised).1.cache pass ∧
          pass.verdict? = some (.ok progress) ∧ report = Check.report pass.size progress ∧
            report.checked = 1 := by
  have delivered : (((start Check.twins.options).run Prod.mk revised).1.step Prod.mk
      (.review 1)).2.any (fun notice =>
        match notice with
        | .delivered 2 report => report.checked = 1
        | _ => false) = true := by
    decide +kernel
  obtain ⟨notice, mem, is_report⟩ := List.any_eq_true.1 delivered
  split at is_report
  · rename_i report
    obtain ⟨newest, -⟩ := newest_delivered Prod.mk Check.twins.options revised
    obtain ⟨-, world, world_eq, pass, progress, reached, succeeds, report_eq⟩ :=
      newest (.review 1) 2 report mem
    obtain rfl := Option.some.inj world_eq
    exact ⟨report, pass, progress, mem, reached, succeeds, report_eq, of_decide_eq_true is_report⟩
  · exact absurd is_report Bool.false_ne_true

end Session
end ProseCheck
