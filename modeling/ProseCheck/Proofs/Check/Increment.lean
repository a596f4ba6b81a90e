import Mathlib.Data.Multiset.AddSub
import ProseCheck.Proofs.Check.Course
import ProseCheck.Proofs.Check.Judgement
import ProseCheck.Proofs.Check.Recheck

/-!
# What a change costs

A pass leaves an answer for each paragraph of its document, and each of them serves one equal
paragraph of the next document.  So a pass that starts from the cache of another one sends requests
for the paragraphs that are new, counted as often as they occur, and of equal paragraphs the first
ones get the answers that are kept.
-/

namespace ProseCheck

/-- A paragraph as a backend sees it: its text and its language. -/
structure Paragraph where
  text : Text
  language : String
deriving DecidableEq

/-- The paragraph of a chunk. -/
def Chunk.paragraph (chunk : Chunk) : Paragraph := ⟨chunk.stream, chunk.language⟩

/-- The paragraph that a request is about. -/
def Request.paragraph (request : Request) : Paragraph := ⟨request.text, request.language⟩

/-- Paragraphs of what is checked, in order. -/
def Assignment.paragraphs (assignment : Assignment) : List Paragraph :=
  assignment.chunks.map Chunk.paragraph

/-- The same paragraphs, as often as each occurs. -/
def Assignment.paragraphBag (assignment : Assignment) : Multiset Paragraph :=
  .ofList assignment.paragraphs

theorem Assignment.paragraph_request {assignment : Assignment} {chunk : Chunk}
    (mem : chunk ∈ assignment.chunks) :
    (assignment.request chunk).paragraph = chunk.paragraph := by
  have text_eq : (assignment.request chunk).text = chunk.stream :=
    World.text_request_of_mem_chunks mem _ _
  rw [Request.paragraph, text_eq]
  rfl

section

variable {Key : Type} {keyOf : Text → String → Key} {paragraph : Chunk → Prop}

theorem Chunk.keyBy_of_paragraph {chunk other : Chunk} (same : chunk.paragraph = other.paragraph) :
    chunk.keyBy keyOf = other.keyBy keyOf := by
  obtain ⟨stream_eq, language_eq⟩ := Paragraph.mk.inj same
  rw [keyBy, keyBy, stream_eq, language_eq]

/-- Keys that tell paragraphs apart are equal just for equal paragraphs. -/
theorem Distinguishes.keyBy_eq_iff (distinguishes : Distinguishes keyOf paragraph)
    {chunk other : Chunk} (is_paragraph : paragraph chunk) (other_is : paragraph other) :
    chunk.keyBy keyOf = other.keyBy keyOf ↔ chunk.paragraph = other.paragraph := by
  constructor
  · intro same
    obtain ⟨stream_eq, language_eq⟩ := distinguishes chunk other is_paragraph other_is same
    exact congrArg₂ Paragraph.mk stream_eq language_eq
  · exact Chunk.keyBy_of_paragraph

variable [DecidableEq Key]

/-- So a key occurs among chunks as often as the paragraph. -/
theorem Distinguishes.count_keys (distinguishes : Distinguishes keyOf paragraph)
    {chunks : List Chunk} (are_paragraphs : ∀ chunk ∈ chunks, paragraph chunk) {chunk : Chunk}
    (is_paragraph : paragraph chunk) :
    (chunks.map (Chunk.keyBy keyOf)).count (chunk.keyBy keyOf) =
      (chunks.map Chunk.paragraph).count chunk.paragraph := by
  rw [List.count, List.countP_map, List.count, List.countP_map]
  refine List.countP_congr fun other mem => ?_
  rw [Function.comp_apply, Function.comp_apply, beq_iff_eq, beq_iff_eq]
  exact distinguishes.keyBy_eq_iff (are_paragraphs other mem) is_paragraph

/-- The cache of some records keeps as many answers under a key as they have chunks with it. -/
theorem Cache.length_queue_ofRecords (keyOf : Text → String → Key) (records : List Record)
    (key : Key) :
    ((ofRecords keyOf records).queue key).length =
      ((records.map Record.chunk).map (Chunk.keyBy keyOf)).count key := by
  rw [ofRecords, queue_ofAnswers, answersOf, List.length_map, ← List.countP_eq_length_filter,
    List.countP_map, List.count, List.map_map, List.countP_map]
  refine List.countP_congr fun record _ => ?_
  rw [Function.comp_apply, Function.comp_apply, beq_iff_eq, decide_eq_true_eq]
  rfl

end

namespace Check

variable {Key State : Type} [DecidableEq Key] {keyOf : Text → String → Key}
  {paragraph : Chunk → Prop} {kept : List Paragraph}

/-- The answers for a chunk and for those after it are taken one after the other. -/
theorem jobs_cons (keyOf : Text → String → Key) (cache : Cache Key) (chunk : Chunk)
    (rest : List Chunk) :
    jobs keyOf cache (chunk :: rest) =
      ⟨chunk, (cache.queue (chunk.keyBy keyOf)).head?⟩ ::
        jobs keyOf (cache.drop (chunk.keyBy keyOf)) rest :=
  rfl

/-- A cache that keeps an answer for each of some paragraphs leaves the others without one. -/
theorem map_paragraph_unanswered (distinguishes : Distinguishes keyOf paragraph)
    {chunks : List Chunk} (are_paragraphs : ∀ chunk ∈ chunks, paragraph chunk) {cache : Cache Key}
    (keeps : ∀ chunk, paragraph chunk →
      (cache.queue (chunk.keyBy keyOf)).length = kept.count chunk.paragraph) :
    (unanswered keyOf cache chunks).map Chunk.paragraph =
      (chunks.map Chunk.paragraph).diff kept := by
  induction chunks generalizing cache kept with
  | nil => rw [List.map_nil, List.nil_diff]; rfl
  | cons first rest induction =>
      obtain ⟨first_is, rest_are⟩ := List.forall_mem_cons.1 are_paragraphs
      -- The answer for the first chunk is gone for the others, as is its paragraph.
      have keeps_rest : ∀ chunk, paragraph chunk →
          ((cache.drop (first.keyBy keyOf)).queue (chunk.keyBy keyOf)).length =
            (kept.erase first.paragraph).count chunk.paragraph := by
        intro chunk is_paragraph
        rw [Cache.queue_drop, List.count_erase, ← keeps chunk is_paragraph]
        by_cases same : chunk.paragraph = first.paragraph
        · rw [if_pos (Chunk.keyBy_of_paragraph same), same]
          simp
        · have differs : chunk.keyBy keyOf ≠ first.keyBy keyOf := fun equal =>
            same ((distinguishes.keyBy_eq_iff is_paragraph first_is).1 equal)
          have other : (first.paragraph == chunk.paragraph) = false :=
            beq_false_of_ne fun equal => same equal.symm
          simp [differs, other]
      have rest_eq := induction rest_are keeps_rest
      have first_keeps := keeps first first_is
      rw [unanswered] at rest_eq ⊢
      rw [jobs_cons, List.map_cons, List.cons_diff]
      split
      · rename_i first_mem
        have some_kept : cache.queue (first.keyBy keyOf) ≠ [] := by
          rw [← List.length_pos_iff, first_keeps]
          exact List.count_pos_iff.2 first_mem
        obtain ⟨answer, later, queue_eq⟩ := List.exists_cons_of_ne_nil some_kept
        rw [queue_eq, List.filter_cons_of_neg (by simp), rest_eq]
      · rename_i not_mem
        rw [List.count_eq_zero_of_not_mem not_mem, List.length_eq_zero_iff] at first_keeps
        rw [List.erase_of_not_mem not_mem] at rest_eq
        rw [first_keeps, List.filter_cons_of_pos (by simp), List.map_cons, List.map_cons, rest_eq]

/-- Of equal chunks, the first ones get the answers that are kept. -/
theorem isSome_kept_iff (distinguishes : Distinguishes keyOf paragraph) {chunks : List Chunk}
    (are_paragraphs : ∀ chunk ∈ chunks, paragraph chunk) {cache : Cache Key}
    (keeps : ∀ chunk, paragraph chunk →
      (cache.queue (chunk.keyBy keyOf)).length = kept.count chunk.paragraph)
    {index : Nat} {job : Job} (job_eq : (jobs keyOf cache chunks)[index]? = some job) :
    job.kept.isSome ↔
      ((chunks.map Chunk.paragraph).take index).count job.chunk.paragraph <
        kept.count job.chunk.paragraph := by
  rw [jobs, List.getElem?_zipWith] at job_eq
  split at job_eq
  · rename_i chunk answer chunk_eq taken_eq
    obtain rfl := Option.some.inj job_eq
    have is_paragraph := are_paragraphs chunk (List.mem_of_getElem? chunk_eq)
    have taken_are : ∀ other ∈ chunks.take index, paragraph other :=
      fun other mem => are_paragraphs other (List.mem_of_mem_take mem)
    have taken_eq : (cache.takeAll (chunks.map (Chunk.keyBy keyOf))).1[index]? = some answer :=
      taken_eq
    rw [Cache.getElem?_takeAll, List.getElem?_map, chunk_eq, Option.map_some, Option.map_some,
      Option.some.injEq] at taken_eq
    rw [← taken_eq, ← List.map_take, distinguishes.count_keys taken_are is_paragraph,
      List.map_take, isSome_getElem?, ← keeps chunk is_paragraph]
  · contradiction

/-- A pass that succeeds has a record for each job, with its answer if one was kept. -/
theorem map_kept_of_ask {server : Server State} {request : Chunk → Request} {inTurn : Bool}
    {state : State} {jobs : List Job} {records : List Record}
    (answered : (ask server request inTurn state jobs).1 = records.map Record.settled) :
    records.map Record.kept = jobs.map fun job => job.kept.isSome := by
  induction jobs generalizing state records with
  | nil =>
      rw [ask] at answered
      rw [List.map_eq_nil_iff.1 answered.symm]
      rfl
  | cons first rest induction =>
      obtain ⟨chunk, none | answer⟩ := first
      · rw [ask] at answered
        split at answered
        · obtain ⟨record, records, rfl, record_eq, rest_eq⟩ :=
            List.map_eq_cons_iff.1 answered.symm
          have kept_eq : record.kept = false := congrArg Settled.kept record_eq
          rw [List.map_cons, List.map_cons, induction rest_eq.symm, kept_eq]
          rfl
        · obtain ⟨record, records, rfl, record_eq, -⟩ := List.map_eq_cons_iff.1 answered.symm
          have failed := congrArg Settled.outcome record_eq
          contradiction
      · rw [ask] at answered
        obtain ⟨record, records, rfl, record_eq, rest_eq⟩ := List.map_eq_cons_iff.1 answered.symm
        have kept_eq : record.kept = true := congrArg Settled.kept record_eq
        rw [List.map_cons, List.map_cons, induction rest_eq.symm, kept_eq]
        rfl

/-- A pass that succeeds has sent the requests of the jobs without an answer, in order. -/
theorem log_of_ask {server : Server State} {request : Chunk → Request} {inTurn : Bool}
    {state : State} {log : List Request} {jobs : List Job} {records : List Record}
    (answered : (ask server.logged request inTurn (state, log) jobs).1 =
      records.map Record.settled) :
    (ask server.logged request inTurn (state, log) jobs).2.2 =
      log ++ ((jobs.filter fun job => job.kept.isNone).map Job.chunk).map request := by
  induction jobs generalizing state log records with
  | nil => simp [ask]
  | cons first rest induction =>
      obtain ⟨chunk, none | answer⟩ := first
      · rw [List.filter_cons_of_pos rfl, List.map_cons, List.map_cons, List.append_cons]
        rw [ask] at answered ⊢
        split
        · rename_i answer next answer_eq
          rw [answer_eq] at answered
          obtain ⟨record, records, rfl, -, rest_eq⟩ := List.map_eq_cons_iff.1 answered.symm
          obtain ⟨-, rfl⟩ := Prod.mk.inj answer_eq
          exact induction rest_eq.symm
        · rename_i cause next answer_eq
          rw [answer_eq] at answered
          obtain ⟨record, records, rfl, record_eq, -⟩ := List.map_eq_cons_iff.1 answered.symm
          have failed := congrArg Settled.outcome record_eq
          contradiction
      · rw [List.filter_cons_of_neg (by simp)]
        rw [ask] at answered ⊢
        obtain ⟨record, records, rfl, -, rest_eq⟩ := List.map_eq_cons_iff.1 answered.symm
        exact induction rest_eq.symm

/-- The chunks that a pass counts as checked are those without a kept answer. -/
theorem checked_of_kept_eq (keyOf : Text → String → Key) (scope : Scope) {cache : Cache Key}
    {chunks : List Chunk} {records : List Record}
    (kept_eq : records.map Record.kept =
      (jobs keyOf cache chunks).map fun job => job.kept.isSome) :
    (Progress.start.recordAll keyOf scope records : Progress Key).checked =
      (unanswered keyOf cache chunks).length := by
  have count_eq := congrArg (List.countP fun kept => !kept) kept_eq
  rw [List.countP_map, List.countP_map] at count_eq
  rw [Progress.recordAll_eq, unanswered, List.length_map, ← List.countP_eq_length_filter]
  simp only [Progress.start, Nat.zero_add]
  refine count_eq.trans (List.countP_congr fun job _ => ?_)
  rw [Function.comp_apply]
  cases job.kept <;> simp

/-- Caches that a pass leaves which succeeds, in whichever order its answers come back. -/
inductive Leaves (keyOf : Text → String → Key) (assignment : Assignment) : Cache Key → Prop where
  | run {State : Type} {server : Server State} {state after : State} {cache next : Cache Key}
      {report : Report} :
      run keyOf server state assignment cache = (.ok (report, next), after) →
      Leaves keyOf assignment next
  | pass {cache : Cache Key} {pass : Pass Key} {progress : Progress Key} :
      Pass.Reached keyOf assignment cache pass →
      pass.verdict? = some (.ok progress) →
      Leaves keyOf assignment progress.cache

/-- Such a cache keeps an answer for each chunk. -/
theorem Leaves.exists_records {assignment : Assignment} {cache : Cache Key}
    (leaves : Leaves keyOf assignment cache) :
    ∃ records, records.map Record.chunk = assignment.chunks ∧
      cache = .ofRecords keyOf records := by
  cases leaves with
  | run succeeds =>
      obtain ⟨records, -, chunks_eq, -, cache_eq⟩ := exists_records_of_run succeeds
      exact ⟨records, chunks_eq, cache_eq⟩
  | pass reached succeeds =>
      obtain ⟨records, recorded⟩ := reached.exists_records
      obtain ⟨chunks_eq, rfl⟩ := recorded.of_succeeds succeeds
      exact ⟨records, chunks_eq, Progress.cache_recordAll_start keyOf assignment.scope records⟩

/-- So it keeps as many answers for a paragraph as the document has chunks of it. -/
theorem Leaves.length_queue {assignment : Assignment} {cache : Cache Key}
    (leaves : Leaves keyOf assignment cache) (distinguishes : Distinguishes keyOf paragraph)
    (are_paragraphs : ∀ chunk ∈ assignment.chunks, paragraph chunk) {chunk : Chunk}
    (is_paragraph : paragraph chunk) :
    (cache.queue (chunk.keyBy keyOf)).length = assignment.paragraphs.count chunk.paragraph := by
  obtain ⟨records, chunks_eq, rfl⟩ := leaves.exists_records
  rw [Cache.length_queue_ofRecords, chunks_eq, distinguishes.count_keys are_paragraphs is_paragraph]
  rfl

/-- A check that succeeds has sent the requests of the chunks for which no answer is kept. -/
theorem requests_of_run {server : Server State} {state after : State} {assignment : Assignment}
    {cache next : Cache Key} {report : Report} {requests : List Request}
    (succeeds : run keyOf server.logged (state, []) assignment cache =
      (.ok (report, next), (after, requests))) :
    requests = (unanswered keyOf cache assignment.chunks).map assignment.request ∧
      report.checked = (unanswered keyOf cache assignment.chunks).length := by
  obtain ⟨records, answered, -, rfl, -⟩ := exists_records_of_run succeeds
  have log_eq := log_of_ask answered
  have state_eq := run_snd keyOf server.logged (state, []) assignment cache
  rw [succeeds] at state_eq
  rw [← state_eq, List.nil_append] at log_eq
  exact ⟨log_eq, checked_of_kept_eq keyOf assignment.scope (map_kept_of_ask answered)⟩

/-- So has a pass that succeeds, in whichever order its answers come back. -/
theorem requests_of_course {outcomes : Nat → Outcome} {assignment : Assignment} {cache : Cache Key}
    {marks : List (Option Request)} {pass : Pass Key} {progress : Progress Key}
    (course : Pass.Course keyOf outcomes (.start keyOf assignment cache) marks pass)
    (succeeds : pass.verdict? = some (.ok progress)) :
    Pass.requests marks = (unanswered keyOf cache assignment.chunks).map assignment.request ∧
      progress.checked = (unanswered keyOf cache assignment.chunks).length := by
  rw [Pass.start_eq_ofChunks] at course
  have on_course := course.onCourse
  refine ⟨on_course.sent_eq_of_succeeds succeeds, ?_⟩
  obtain ⟨records, foreseen_eq, rfl⟩ := on_course.records_of_succeeds succeeds
  refine checked_of_kept_eq keyOf assignment.scope ?_
  rw [← map_kept_foreseen, foreseen_eq, List.map_map]
  rfl

section

variable {first second : Assignment} {cache : Cache Key}
  (distinguishes : Distinguishes keyOf fun chunk => chunk ∈ first.chunks ∨ chunk ∈ second.chunks)
  (leaves : Leaves keyOf first cache)

include distinguishes leaves

/-- The paragraphs without a kept answer are those that are new. -/
theorem paragraphs_unanswered :
    (unanswered keyOf cache second.chunks).map Chunk.paragraph =
      second.paragraphs.diff first.paragraphs :=
  map_paragraph_unanswered distinguishes (fun _ mem => .inr mem)
    fun _ is_paragraph => leaves.length_queue distinguishes (fun _ mem => .inl mem) is_paragraph

/-- Requests for them are as many, and are about these paragraphs. -/
theorem paragraphs_of_requests {requests : List Request} {checked : Nat}
    (requests_eq : requests = (unanswered keyOf cache second.chunks).map second.request)
    (checked_eq : checked = (unanswered keyOf cache second.chunks).length) :
    Multiset.ofList (requests.map Request.paragraph) = second.paragraphBag - first.paragraphBag ∧
      checked = (second.paragraphBag - first.paragraphBag).card := by
  have new_eq := paragraphs_unanswered distinguishes leaves
  have about_eq : requests.map Request.paragraph =
      (unanswered keyOf cache second.chunks).map Chunk.paragraph := by
    rw [requests_eq, List.map_map]
    refine List.map_congr_left fun chunk mem => ?_
    obtain ⟨job, job_mem, rfl⟩ := List.mem_map.1 mem
    refine Assignment.paragraph_request ?_
    rw [← map_chunk_jobs keyOf cache second.chunks]
    exact List.mem_map_of_mem (List.mem_of_mem_filter job_mem)
  rw [Assignment.paragraphBag, Assignment.paragraphBag, Multiset.coe_sub, ← new_eq, about_eq,
    Multiset.coe_card, List.length_map]
  exact ⟨rfl, checked_eq⟩

end

/-- A pass that starts from the cache of another one sends requests for the paragraphs that are new,
counted as often as they occur more often than before, and for no other.  It counts these chunks as
checked.  Of equal chunks, the first ones get the answers that are kept, as many as the other
document had.  So it is for a check that asks in document order and for a pass whose answers come
back in any order. -/
theorem incremental_requests (keyOf : Text → String → Key) (first second : Assignment)
    (distinguishes : Distinguishes keyOf
      fun chunk => chunk ∈ first.chunks ∨ chunk ∈ second.chunks)
    (cache : Cache Key) (leaves : Leaves keyOf first cache) :
    (∀ (State : Type) (server : Server State) (state after : State) (report : Report)
        (next : Cache Key) (requests : List Request),
      run keyOf server.logged (state, []) second cache = (.ok (report, next), (after, requests)) →
        Multiset.ofList (requests.map Request.paragraph) =
            second.paragraphBag - first.paragraphBag ∧
          report.checked = (second.paragraphBag - first.paragraphBag).card) ∧
    (∀ (outcomes : Nat → Outcome) (marks : List (Option Request)) (pass : Pass Key)
        (progress : Progress Key),
      Pass.Course keyOf outcomes (.start keyOf second cache) marks pass →
        pass.verdict? = some (.ok progress) →
          Multiset.ofList ((Pass.requests marks).map Request.paragraph) =
              second.paragraphBag - first.paragraphBag ∧
            progress.checked = (second.paragraphBag - first.paragraphBag).card) ∧
    ∀ index job, (jobs keyOf cache second.chunks)[index]? = some job →
      (job.kept.isSome ↔
        (second.paragraphs.take index).count job.chunk.paragraph <
          first.paragraphs.count job.chunk.paragraph) := by
  refine ⟨?_, ?_, ?_⟩
  · intro State server state after report next requests succeeds
    obtain ⟨requests_eq, checked_eq⟩ := requests_of_run succeeds
    exact paragraphs_of_requests distinguishes leaves requests_eq checked_eq
  · intro outcomes marks pass progress course succeeds
    obtain ⟨requests_eq, checked_eq⟩ := requests_of_course course succeeds
    exact paragraphs_of_requests distinguishes leaves requests_eq checked_eq
  · intro index job job_eq
    exact isSome_kept_iff distinguishes (fun _ mem => .inr mem)
      (fun _ is_paragraph =>
        leaves.length_queue distinguishes (fun _ mem => .inl mem) is_paragraph) job_eq

/-- Three equal paragraphs after another one. -/
def triplets : Assignment where
  world :=
    .ofSource (.ofTree "main"
      (.inner .markup
        [.leaf .text ['N', 'o'], .leaf .parbreak ['\n', '\n'],
          .leaf .text ['S', 'o'], .leaf .parbreak ['\n', '\n'],
          .leaf .text ['S', 'o'], .leaf .parbreak ['\n', '\n'],
          .leaf .text ['S', 'o'], .leaf .parbreak ['\n', '\n']]))
  options := twins.options
  allFiles := false

theorem incremental_requests_triplets :
    ∃ cache report next requests,
      Leaves Prod.mk twins cache ∧
        run Prod.mk (Server.ofFunction fun _ => .ok []).logged ((), []) triplets cache =
            (.ok (report, next), ((), requests)) ∧
          requests.map Request.text = [['N', 'o', '\n', '\n'], ['S', 'o', '\n', '\n']] ∧
            (triplets.paragraphBag - twins.paragraphBag).card = 2 := by
  -- The twins leave two answers for their paragraph, and the triplets have it three times.
  obtain ⟨cache, report, next, requests, leaves, succeeds, texts_eq, checked_eq⟩ :
      ∃ cache report next requests,
        Leaves Prod.mk twins cache ∧
          run Prod.mk (Server.ofFunction fun _ => .ok []).logged ((), []) triplets cache =
              (.ok (report, next), ((), requests)) ∧
            requests.map Request.text = [['N', 'o', '\n', '\n'], ['S', 'o', '\n', '\n']] ∧
              report.checked = 2 := by
    have first_succeeds : run Prod.mk (Server.ofFunction fun _ => .ok []) () twins .empty =
        (.ok _, ()) := rfl
    exact ⟨_, _, _, _, .run first_succeeds, rfl, by decide +kernel, by decide +kernel⟩
  obtain ⟨checks, -, -⟩ :=
    incremental_requests Prod.mk twins triplets (distinguishes_of_injective Prod.mk.inj _) cache
      leaves
  obtain ⟨-, checked_card⟩ := checks Unit _ () () report next requests succeeds
  exact ⟨cache, report, next, requests, leaves, succeeds, texts_eq, checked_card ▸ checked_eq⟩

end Check
end ProseCheck
