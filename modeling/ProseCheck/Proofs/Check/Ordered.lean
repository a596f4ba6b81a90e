import ProseCheck.Proofs.Check.FanOut
import ProseCheck.Proofs.Location.Leading

/-!
# Diagnostics in document order

Chunks are recorded in the order of the document, and suggestions on a chunk in the order of the
answer.  If answers are sorted by the starts of their suggestions, then diagnostics are sorted by
where their first locations start: suggestions may overlap, reach beyond the chunk or be dropped.
-/

namespace ProseCheck

/-- An answer whose suggestions are sorted by start. -/
def IsSorted (answer : Answer) : Prop :=
  answer.Pairwise fun earlier later => earlier.start ≤ later.start

/-- A cache that keeps only sorted answers. -/
def Cache.KeepsSorted {Key : Type} [DecidableEq Key] (cache : Cache Key) : Prop :=
  ∀ key, ∀ answer ∈ cache.queue key, IsSorted answer

/-- Diagnostics sorted by where their first locations start. -/
def InDocumentOrder (diagnostics : List Diagnostic) : Prop :=
  diagnostics.Pairwise fun earlier later => earlier.first.start ≤ later.first.start

theorem Cache.keepsSorted_empty {Key : Type} [DecidableEq Key] :
    (Cache.empty : Cache Key).KeepsSorted := by
  intro key answer mem
  simp at mem

/-- Where the first location of a diagnostic starts. -/
theorem Chunk.exists_leading {scope : Scope} {chunk : Chunk} {suggestion : Suggestion}
    {diagnostic : Diagnostic} (located : chunk.locate? scope suggestion = some diagnostic) :
    ∃ index location, chunk.map.Reaches scope index location ∧ suggestion.start ≤ index ∧
      location.start = diagnostic.first.start ∧
        ∀ other another, chunk.map.Reaches scope other another → suggestion.start ≤ other →
          index ≤ other := by
  obtain ⟨first, rest, diagnostic_eq⟩ := List.exists_cons_of_ne_nil diagnostic.located
  have first_eq : diagnostic.first = first := by simp [Diagnostic.first, diagnostic_eq]
  have locations_eq := locations_of_locate? located
  rw [first_eq]
  exact PositionMap.exists_leading (locations_eq.symm.trans diagnostic_eq)

namespace InOrder

variable {scope : Scope}

/-- Suggestions on one chunk give diagnostics in their order. -/
theorem pairwise_locate {chunk : Chunk}
    (within : ∀ index other first second, chunk.map.Reaches scope index first →
      chunk.map.Reaches scope other second → index ≤ other → first.start ≤ second.start)
    {answer : Answer} (sorted : IsSorted answer) :
    InDocumentOrder (answer.filterMap (chunk.locate? scope)) := by
  refine List.pairwise_filterMap.2 (sorted.imp ?_)
  intro earlier later start_le first first_located second second_located
  obtain ⟨index, location, reaches, -, start_eq, least⟩ := Chunk.exists_leading first_located
  obtain ⟨other, another, other_reaches, other_ge, other_eq, -⟩ :=
    Chunk.exists_leading second_located
  -- The second suggestion begins within what the first one could have begun with.
  have index_le := least other another other_reaches (by omega)
  rw [← start_eq, ← other_eq]
  exact within index other location another reaches other_reaches index_le

/-- Sorted answers on chunks in order give diagnostics in document order. -/
theorem pairwise_diagnostics {records : List Record}
    (ordered : InOrder scope (records.map Record.chunk))
    (sorted : ∀ record ∈ records, IsSorted record.answer) :
    InDocumentOrder (records.flatMap (Record.diagnostics scope)) := by
  refine List.pairwise_flatMap.2 ⟨fun record mem => ?_, ?_⟩
  · exact pairwise_locate (ordered.within record.chunk (List.mem_map_of_mem mem))
      (sorted record mem)
  · refine (List.pairwise_map.1 ordered.across).imp ?_
    intro earlier later apart first first_mem second second_mem
    obtain ⟨suggestion, -, first_located⟩ := List.mem_filterMap.1 first_mem
    obtain ⟨remark, -, second_located⟩ := List.mem_filterMap.1 second_mem
    obtain ⟨index, location, reaches, -, start_eq, -⟩ := Chunk.exists_leading first_located
    obtain ⟨other, another, other_reaches, -, other_eq, -⟩ := Chunk.exists_leading second_located
    rw [← start_eq, ← other_eq]
    exact apart index other location another reaches other_reaches

end InOrder

/-- What came of a chunk is no answer or a sorted one. -/
def Settled.IsSorted (settled : Settled) : Prop :=
  ∀ answer, settled.outcome = .ok answer → ProseCheck.IsSorted answer

variable {Key State : Type} [DecidableEq Key] {keyOf : Text → String → Key} {scope : Scope}

/-- A pass that ends with diagnostics in document order and, if it succeeds, with a cache of sorted
answers. -/
inductive EndsInOrder : Except Abortion (Progress Key) → Prop where
  | succeeds {progress : Progress Key} (ordered : InDocumentOrder progress.findings.diagnostics)
      (sorted : progress.cache.KeepsSorted) : EndsInOrder (.ok progress)
  | fails {abortion : Abortion} (ordered : InDocumentOrder abortion.diagnostics) :
      EndsInOrder (.error abortion)

theorem Cache.keepsSorted_ofRecords {records : List Record}
    (sorted : ∀ record ∈ records, IsSorted record.answer) :
    (Cache.ofRecords keyOf records).KeepsSorted := by
  intro key answer mem
  rw [ofRecords, queue_ofAnswers, answersOf] at mem
  obtain ⟨entry, entry_mem, rfl⟩ := List.mem_map.1 mem
  obtain ⟨record, record_mem, rfl⟩ := List.mem_map.1 (List.mem_filter.1 entry_mem).1
  exact sorted record record_mem

/-- Recording sorted answers on chunks in order keeps diagnostics in document order. -/
theorem Progress.endsInOrder_settle (keyOf : Text → String → Key) {settled : List Settled}
    (ordered : InOrder scope (settled.map Settled.chunk))
    (sorted : ∀ result ∈ settled, result.IsSorted) :
    EndsInOrder (Progress.start.settle keyOf scope settled) := by
  rcases Check.settled_cases settled with
    ⟨records, rfl⟩ | ⟨records, chunk, kept, cause, rest, rfl⟩
  · have records_sorted : ∀ record ∈ records, IsSorted record.answer := fun record mem =>
      sorted record.settled (List.mem_map_of_mem mem) record.answer rfl
    rw [settle_map_settled]
    rw [List.map_map] at ordered
    refine .succeeds ?_ ?_
    · rw [diagnostics_recordAll_start]
      exact InOrder.pairwise_diagnostics ordered records_sorted
    · rw [cache_recordAll_start]
      exact Cache.keepsSorted_ofRecords records_sorted
  · have records_sorted : ∀ record ∈ records, IsSorted record.answer := fun record mem =>
      sorted record.settled (List.mem_append_left _ (List.mem_map_of_mem mem)) record.answer rfl
    rw [List.map_append, List.map_map] at ordered
    rw [settle_records, settle]
    refine .fails ?_
    rw [diagnostics_recordAll_start]
    exact InOrder.pairwise_diagnostics (ordered.of_prefix (List.prefix_append _ _)) records_sorted

namespace Check

/-- A cache of sorted answers gives jobs sorted answers. -/
theorem isSorted_of_mem_jobs {cache : Cache Key} (kept_sorted : cache.KeepsSorted)
    {chunks : List Chunk} {job : Job} (mem : job ∈ jobs keyOf cache chunks) {answer : Answer}
    (kept_eq : job.kept = some answer) : IsSorted answer := by
  have taken : some answer ∈ (cache.takeAll (chunks.map (Chunk.keyBy keyOf))).1 := by
    rw [← map_kept_jobs, ← kept_eq]
    exact List.mem_map_of_mem mem
  obtain ⟨index, found⟩ := List.getElem?_of_mem taken
  obtain ⟨key, -, answer_mem⟩ := Cache.mem_queue_of_takeAll found
  exact kept_sorted key answer answer_mem

/-- What a server of sorted answers makes of jobs with sorted answers. -/
theorem isSorted_of_mem_ask {server : Server State}
    (answers_sorted : ∀ state request answer next,
      server state request = (.ok answer, next) → IsSorted answer)
    (request : Chunk → Request) (inTurn : Bool) {state : State} {jobs : List Job}
    (kept_sorted : ∀ job ∈ jobs, ∀ answer, job.kept = some answer → IsSorted answer) :
    ∀ settled ∈ (ask server request inTurn state jobs).1, settled.IsSorted := by
  induction jobs generalizing state with
  | nil => simp [ask]
  | cons first rest induction =>
      obtain ⟨first_sorted, rest_sorted⟩ := List.forall_mem_cons.1 kept_sorted
      obtain ⟨chunk, none | answer⟩ := first
      · rw [ask]
        split
        · rename_i answer next answered
          refine List.forall_mem_cons.2 ⟨?_, induction rest_sorted⟩
          intro other same
          rw [← Except.ok.inj same]
          exact answers_sorted state (request chunk) answer next answered
        · rename_i cause next answered
          refine List.forall_mem_cons.2 ⟨fun other same => by contradiction, ?_⟩
          split
          · simp
          · exact induction rest_sorted
      · rw [ask]
        refine List.forall_mem_cons.2 ⟨?_, induction rest_sorted⟩
        intro other same
        rw [← Except.ok.inj same]
        exact first_sorted answer rfl

/-- What comes of jobs comes of the first of them, in order. -/
theorem map_chunk_ask_prefix (server : Server State) (request : Chunk → Request) (inTurn : Bool)
    (state : State) (jobs : List Job) :
    (ask server request inTurn state jobs).1.map Settled.chunk <+: jobs.map Job.chunk := by
  induction jobs generalizing state with
  | nil => exact List.prefix_refl _
  | cons first rest induction =>
      obtain ⟨chunk, none | answer⟩ := first
      · rw [ask]
        split
        · exact (List.prefix_cons_inj chunk).2 (induction _)
        · cases inTurn with
          | true => exact (List.prefix_cons_inj chunk).2 List.nil_prefix
          | false => exact (List.prefix_cons_inj chunk).2 (induction _)
      · rw [ask]
        exact (List.prefix_cons_inj chunk).2 (induction state)

/-- Recording what a server of sorted answers makes of chunks in order. -/
theorem endsInOrder_ask {chunks : List Chunk} (ordered : InOrder scope chunks) {cache : Cache Key}
    (kept_sorted : cache.KeepsSorted) {server : Server State}
    (answers_sorted : ∀ state request answer next,
      server state request = (.ok answer, next) → IsSorted answer)
    (request : Chunk → Request) (inTurn : Bool) (state : State) :
    EndsInOrder (Progress.start.settle keyOf scope
      (ask server request inTurn state (jobs keyOf cache chunks)).1) := by
  have asked := map_chunk_ask_prefix server request inTurn state (jobs keyOf cache chunks)
  rw [map_chunk_jobs] at asked
  exact Progress.endsInOrder_settle keyOf (ordered.of_prefix asked)
    (isSorted_of_mem_ask answers_sorted request inTurn fun _ mem _ kept_eq =>
      isSorted_of_mem_jobs kept_sorted mem kept_eq)

/-- What is foreseen of chunks by sorted answers. -/
theorem isSorted_of_mem_foreseen {cache : Cache Key} (kept_sorted : cache.KeepsSorted)
    {chunks : List Chunk} {outcomes : Nat → Outcome}
    (outcomes_sorted : ∀ place answer, outcomes place = .ok answer → IsSorted answer) :
    ∀ settled ∈ foreseen keyOf cache chunks outcomes, settled.IsSorted := by
  intro settled mem answer outcome_eq
  obtain ⟨place, inside, rfl⟩ := List.mem_mapIdx.1 mem
  cases kept_eq : (jobs keyOf cache chunks)[place].kept with
  | some kept =>
      rw [Job.foresee, kept_eq] at outcome_eq
      rw [← Except.ok.inj outcome_eq]
      exact isSorted_of_mem_jobs kept_sorted (List.getElem_mem inside) kept_eq
  | none =>
      rw [Job.foresee, kept_eq] at outcome_eq
      exact outcomes_sorted place answer outcome_eq

/-- The chunks of a main file without pages are in the order of the document. -/
theorem inOrder_chunks {id : FileId} {tree : Node} (shaped : tree.isShaped = true) {world : World}
    (source_mem : Source.ofTree id tree ∈ world.sources) (main_eq : world.main = some id)
    (no_pages : world.pages = none) (options : Options) :
    InOrder (Assignment.scope ⟨world, options, false⟩)
      (Assignment.chunks ⟨world, options, false⟩) := by
  have source_eq : world.source? id = some (Source.ofTree id tree) :=
    World.source?_of_mem source_mem
  rw [Assignment.chunks]
  by_cases nameless : id = ""
  · subst nameless
    rw [World.chunks_nameless no_pages options main_eq]
    exact .nil _
  · rw [World.chunks_main no_pages options main_eq nameless, World.fileChunks, source_eq,
      Assignment.scope, if_neg Bool.false_ne_true, main_eq]
    exact Markup.inOrder_convert shaped source_mem

/-- Diagnostics come out in document order.  When the main file is checked without pages and all
answers are sorted by the starts of their suggestions, those that are kept from before included, the
first locations of the diagnostics start one after the other, both in the report of a check that
succeeds and in what an aborted one had found; and the next cache keeps sorted answers again.  The
same holds of passes, however many requests are under way and in whichever order they come back. -/
theorem diagnostics_in_document_order (keyOf : Text → String → Key) {id : FileId} {tree : Node}
    (shaped : tree.isShaped = true) {world : World}
    (source_mem : Source.ofTree id tree ∈ world.sources) (main_eq : world.main = some id)
    (no_pages : world.pages = none) (options : Options) {cache : Cache Key}
    (kept_sorted : cache.KeepsSorted) :
    (∀ (State : Type) (server : Server State) (state : State),
      (∀ state request answer next, server state request = (.ok answer, next) → IsSorted answer) →
        (∀ report next after,
          run keyOf server state ⟨world, options, false⟩ cache = (.ok (report, next), after) →
            InDocumentOrder report.diagnostics ∧ next.KeepsSorted) ∧
        ∀ abortion after,
          run keyOf server state ⟨world, options, false⟩ cache = (.error abortion, after) →
            InDocumentOrder abortion.diagnostics) ∧
    ∀ outcomes : Nat → Outcome,
      (∀ place answer, outcomes place = .ok answer → IsSorted answer) →
        ∀ marks pass,
          Pass.Course keyOf outcomes (.start keyOf ⟨world, options, false⟩ cache) marks pass →
            ∀ ending, pass.verdict? = some ending → EndsInOrder ending := by
  have ordered := inOrder_chunks shaped source_mem main_eq no_pages options
  constructor
  · intro State server state answers_sorted
    have run_eq := run_fst keyOf server state ⟨world, options, false⟩ cache
    have ends : EndsInOrder (Progress.start.settle keyOf _ _) :=
      endsInOrder_ask ordered kept_sorted answers_sorted
        (Assignment.request ⟨world, options, false⟩) (Assignment.inTurn ⟨world, options, false⟩)
        state
    generalize Progress.start.settle keyOf _ _ = ending at ends run_eq
    constructor
    · intro report next after succeeds
      rw [succeeds] at run_eq
      cases ends with
      | succeeds ordered sorted =>
          obtain ⟨rfl, rfl⟩ := Prod.mk.inj (Except.ok.inj run_eq)
          exact ⟨ordered, sorted⟩
      | fails ordered => contradiction
    · intro abortion after fails
      rw [fails] at run_eq
      cases ends with
      | succeeds ordered sorted => contradiction
      | fails ordered =>
          rw [Except.error.inj run_eq]
          exact ordered
  · intro outcomes outcomes_sorted marks pass course ending ends
    rw [Pass.start_eq_ofChunks] at course
    rw [course.onCourse.verdict_eq ends]
    refine Progress.endsInOrder_settle keyOf ?_
      (isSorted_of_mem_foreseen kept_sorted outcomes_sorted)
    rw [map_chunk_foreseen]
    exact ordered

/-- Remarks on the same words, of which one reaches beyond the text and one is all behind it. -/
def overlapping : Answer :=
  [⟨0, 2, "both", "", "", []⟩, ⟨0, 1, "first", "", "", []⟩, ⟨1, 9, "clamped", "", "", []⟩,
    ⟨7, 8, "behind", "", "", []⟩]

theorem isSorted_overlapping : IsSorted overlapping := by
  simp [IsSorted, overlapping]

theorem diagnostics_in_document_order_twins :
    (∃ report next,
      run Prod.mk (fun (calls : Nat) _ => (.ok overlapping, calls + 1)) 0
          ⟨twins.world, twins.options, false⟩ .empty = (.ok (report, next), 2) ∧
        report.diagnostics.map (fun diagnostic => diagnostic.first.start) = [0, 0, 1, 4, 4, 5] ∧
          InDocumentOrder report.diagnostics ∧ next.KeepsSorted) ∧
      ∃ marks pass abortion,
        Pass.Course Prod.mk
            (fun place => if place = 0 then .ok overlapping else .error .requestFailed)
            (.start Prod.mk ⟨twins.world, twins.options, false⟩ .empty) marks pass ∧
          pass.verdict? = some (.error abortion) ∧ abortion.diagnostics.length = 3 ∧
            EndsInOrder (.error abortion : Except Abortion (Progress (Text × String))) := by
  obtain ⟨tree, shaped, source_mem⟩ : ∃ tree : Node, tree.isShaped = true ∧
      Source.ofTree "main" tree ∈ twins.world.sources :=
    ⟨_, by decide, List.mem_singleton_self _⟩
  obtain ⟨checks, passes⟩ := diagnostics_in_document_order Prod.mk shaped source_mem rfl rfl
    twins.options Cache.keepsSorted_empty
  constructor
  · obtain ⟨report, next, succeeds, starts⟩ : ∃ report next,
        run Prod.mk (fun (calls : Nat) _ => (.ok overlapping, calls + 1)) 0
            ⟨twins.world, twins.options, false⟩ .empty = (.ok (report, next), 2) ∧
          report.diagnostics.map (fun diagnostic => diagnostic.first.start) =
            [0, 0, 1, 4, 4, 5] :=
      ⟨_, _, rfl, by decide +kernel⟩
    obtain ⟨reported, -⟩ := checks Nat (fun calls _ => (.ok overlapping, calls + 1)) 0 (by
      rintro calls request answer next answered
      rw [← Except.ok.inj (Prod.mk.inj answered).1]
      exact isSorted_overlapping)
    obtain ⟨ordered, sorted⟩ := reported report next 2 succeeds
    exact ⟨report, next, succeeds, starts, ordered, sorted⟩
  · -- The failure comes back before the answer on the first chunk.
    obtain ⟨marks, pass, abortion, course, ends, found⟩ : ∃ marks pass abortion,
        Pass.Course Prod.mk
            (fun place => if place = 0 then .ok overlapping else .error .requestFailed)
            (.start Prod.mk ⟨twins.world, twins.options, false⟩ .empty) marks pass ∧
          pass.verdict? = some (.error abortion) ∧ abortion.diagnostics.length = 3 := by
      have begun : Pass.Course Prod.mk
          (fun place => if place = 0 then .ok overlapping else .error .requestFailed)
          (.start Prod.mk ⟨twins.world, twins.options, false⟩ .empty) [] _ := .start
      have first_sent := begun.move (.launch rfl)
      have second_sent := first_sent.move (.launch rfl)
      have failed := second_sent.move (.answer (List.mem_cons_of_mem _ List.mem_cons_self) rfl)
      have answered := failed.move (.answer List.mem_cons_self rfl)
      exact ⟨_, _, _, answered.move (.review rfl rfl), rfl, by decide +kernel⟩
    have ordered := passes (fun place => if place = 0 then .ok overlapping else
      .error .requestFailed) (by
        intro place answer answered
        split at answered
        · rw [← Except.ok.inj answered]
          exact isSorted_overlapping
        · contradiction) marks pass course _ ends
    exact ⟨marks, pass, abortion, course, ends, found, ordered⟩

end Check
end ProseCheck
