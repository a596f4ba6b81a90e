import ProseCheck.Proofs.Check.Recorded
import ProseCheck.Proofs.Chunk.Request

/-!
# What follows from the texts

Where the answers of a server follow from the paragraphs that it is asked about, what a check finds
follows from the document: the answers on its chunks are judged in order up to the first failure.
A cache that keeps only such answers, under keys that tell the paragraphs apart, changes nothing.
-/

namespace ProseCheck

/-- What comes of a text in a language, with some rules turned off and some words allowed. -/
abbrev Backend := Text → String → Option (List String) → Option (List String) → Outcome

/-- What comes of a request. -/
def Request.outcome (backend : Backend) (request : Request) : Outcome :=
  backend request.text request.language request.disabledRules request.allowedWords

/-- The answers of a server follow from what it is asked, whatever state it is in. -/
def Server.Follows {State : Type} (server : Server State) (backend : Backend) : Prop :=
  ∀ state request, (server state request).1 = request.outcome backend

/-- What comes of the paragraph of a chunk. -/
def Options.outcome (options : Options) (backend : Backend) (chunk : Chunk) : Outcome :=
  backend chunk.stream chunk.language (Assignment.unlessEmpty options.disabledChecks)
    (Assignment.unlessEmpty options.dictionary)

theorem Assignment.outcome_request (assignment : Assignment) (backend : Backend) {chunk : Chunk}
    (mem : chunk ∈ assignment.chunks) :
    (assignment.request chunk).outcome backend = assignment.options.outcome backend chunk := by
  have text_eq : (assignment.request chunk).text = chunk.stream :=
    World.text_request_of_mem_chunks mem _ _
  rw [Request.outcome, text_eq]
  rfl

/-- Findings with those on chunks in order, up to the first chunk without an answer. -/
def Findings.judge (scope : Scope) (outcome : Chunk → Outcome) (findings : Findings) :
    List Chunk → Except Abortion Findings
  | [] => .ok findings
  | chunk :: rest =>
    match outcome chunk with
    | .ok answer => judge scope outcome (findings.add scope chunk.map answer) rest
    | .error cause => .error ⟨findings.diagnostics, cause⟩

/-- What findings tell the user: diagnostics, and remarks on those that were dropped. -/
def Findings.told (findings : Findings) : List Diagnostic × List String :=
  (findings.diagnostics,
    if findings.dropped = 0 then []
    else [s!"{findings.dropped} suggestions had no source location"])

/-- What a report tells the user of the document. -/
def Report.told (report : Report) : List Diagnostic × List String :=
  (report.diagnostics, report.warnings)

/-- What the user is told of a document, by the paragraphs of it alone. -/
def Assignment.verdict (assignment : Assignment) (backend : Backend) :
    Except Abortion (List Diagnostic × List String) :=
  (Findings.empty.judge assignment.scope (assignment.options.outcome backend)
    assignment.chunks).map Findings.told

/-- What the user is told by a check. -/
def Check.told {Key : Type} (outcome : Except Abortion (Report × Cache Key)) :
    Except Abortion (List Diagnostic × List String) :=
  outcome.map fun (report, _) => report.told

/-- Keys tell some paragraphs apart. -/
def Distinguishes {Key : Type} (keyOf : Text → String → Key) (paragraph : Chunk → Prop) : Prop :=
  ∀ chunk other, paragraph chunk → paragraph other → chunk.keyBy keyOf = other.keyBy keyOf →
    chunk.stream = other.stream ∧ chunk.language = other.language

/-- Keys that are distinct for distinct texts or languages tell all paragraphs apart. -/
theorem distinguishes_of_injective {Key : Type} {keyOf : Text → String → Key}
    (injective : ∀ {text other language otherLanguage},
      keyOf text language = keyOf other otherLanguage → text = other ∧ language = otherLanguage)
    (paragraph : Chunk → Prop) : Distinguishes keyOf paragraph :=
  fun _ _ _ _ same => injective same

/-- A cache keeps nothing but what comes of some paragraphs, under their keys. -/
def Cache.Consistent {Key : Type} [DecidableEq Key] (keyOf : Text → String → Key)
    (outcome : Chunk → Outcome) (paragraph : Chunk → Prop) (cache : Cache Key) : Prop :=
  ∀ key, ∀ answer ∈ cache.queue key,
    ∃ chunk, paragraph chunk ∧ chunk.keyBy keyOf = key ∧ outcome chunk = .ok answer

variable {Key : Type} [DecidableEq Key] {keyOf : Text → String → Key} {outcome : Chunk → Outcome}
  {paragraph : Chunk → Prop}

namespace Cache

theorem consistent_empty : (empty : Cache Key).Consistent keyOf outcome paragraph := by
  intro key answer mem
  contradiction

theorem consistent_ofRecords {records : List Record}
    (paragraphs : ∀ record ∈ records, paragraph record.chunk)
    (answered : ∀ record ∈ records, outcome record.chunk = .ok record.answer) :
    (ofRecords keyOf records).Consistent keyOf outcome paragraph := by
  intro key answer mem
  rw [ofRecords, queue_ofAnswers, answersOf] at mem
  obtain ⟨entry, entry_mem, rfl⟩ := List.mem_map.1 mem
  obtain ⟨listed, at_key⟩ := List.mem_filter.1 entry_mem
  obtain ⟨record, record_mem, rfl⟩ := List.mem_map.1 listed
  exact ⟨record.chunk, paragraphs record record_mem, of_decide_eq_true at_key,
    answered record record_mem⟩

/-- What a consistent cache keeps for a chunk is what comes of it. -/
theorem Consistent.outcome_of_kept {cache : Cache Key} {options : Options} {backend : Backend}
    (consistent : cache.Consistent keyOf (options.outcome backend) paragraph)
    (distinguishes : Distinguishes keyOf paragraph) {chunks : List Chunk}
    (paragraphs : ∀ chunk ∈ chunks, paragraph chunk) {index : Nat} {job : Job} {answer : Answer}
    (job_eq : (Check.jobs keyOf cache chunks)[index]? = some job)
    (kept_eq : job.kept = some answer) :
    options.outcome backend job.chunk = .ok answer := by
  rw [Check.jobs, List.getElem?_zipWith] at job_eq
  split at job_eq
  · rename_i chunk kept chunk_eq taken_eq
    obtain rfl := Option.some.inj job_eq
    simp only at kept_eq
    rw [kept_eq] at taken_eq
    obtain ⟨key, key_eq, mem⟩ := mem_queue_of_takeAll taken_eq
    rw [List.getElem?_map, chunk_eq, Option.map_some] at key_eq
    -- The answer came of another chunk under the same key, hence of the same paragraph.
    obtain ⟨other, other_paragraph, other_key, other_outcome⟩ := consistent key answer mem
    have chunk_paragraph := paragraphs chunk (List.mem_of_getElem? chunk_eq)
    obtain ⟨stream_eq, language_eq⟩ := distinguishes chunk other chunk_paragraph other_paragraph
      ((Option.some.inj key_eq).trans other_key.symm)
    rw [← other_outcome, Options.outcome, Options.outcome, stream_eq, language_eq]
  · contradiction

end Cache

namespace Findings

/-- Answers that come of chunks are judged before the other chunks. -/
theorem judge_records {records : List Record}
    (answered : ∀ record ∈ records, outcome record.chunk = .ok record.answer) (scope : Scope)
    (findings : Findings) (rest : List Chunk) :
    findings.judge scope outcome (records.map Record.chunk ++ rest) =
      (findings.addAll scope records).judge scope outcome rest := by
  induction records generalizing findings with
  | nil => rfl
  | cons first records induction =>
      obtain ⟨first_answered, rest_answered⟩ := List.forall_mem_cons.1 answered
      rw [List.map_cons, List.cons_append, judge, first_answered]
      exact induction rest_answered _

end Findings

namespace Check

section

variable {State : Type} {server : Server State} {request : Chunk → Request} {jobs : List Job}

/-- All that comes of jobs is what comes of their chunks. -/
theorem outcome_of_mem_ask (inTurn : Bool) (state : State)
    (kept : ∀ job ∈ jobs, ∀ answer, job.kept = some answer → outcome job.chunk = .ok answer)
    (asked : ∀ state, ∀ job ∈ jobs, (server state (request job.chunk)).1 = outcome job.chunk) :
    ∀ settled ∈ (ask server request inTurn state jobs).1,
      outcome settled.chunk = settled.outcome := by
  induction jobs generalizing state with
  | nil => simp [ask]
  | cons first rest induction =>
      obtain ⟨first_kept, rest_kept⟩ := List.forall_mem_cons.1 kept
      have rest_settled (state : State) := induction state rest_kept
        fun state job mem => asked state job (List.mem_cons_of_mem first mem)
      have first_asked := asked state first List.mem_cons_self
      obtain ⟨chunk, none | answer⟩ := first
      · rw [ask]
        split
        · rename_i answer next answered
          rw [answered] at first_asked
          exact List.forall_mem_cons.2 ⟨first_asked.symm, rest_settled next⟩
        · rename_i cause next answered
          rw [answered] at first_asked
          refine List.forall_mem_cons.2 ⟨first_asked.symm, ?_⟩
          cases inTurn
          · exact rest_settled next
          · simp
      · rw [ask]
        exact List.forall_mem_cons.2 ⟨first_kept answer rfl, rest_settled state⟩

/-- What is recorded of jobs is what their chunks are judged by. -/
theorem settle_ask (keyOf : Text → String → Key) (scope : Scope) (inTurn : Bool) (state : State)
    (kept : ∀ job ∈ jobs, ∀ answer, job.kept = some answer → outcome job.chunk = .ok answer)
    (asked : ∀ state, ∀ job ∈ jobs, (server state (request job.chunk)).1 = outcome job.chunk)
    (progress : Progress Key) :
    (progress.settle keyOf scope (ask server request inTurn state jobs).1).map
        Progress.findings =
      progress.findings.judge scope outcome (jobs.map Job.chunk) := by
  induction jobs generalizing state progress with
  | nil => rfl
  | cons first rest induction =>
      obtain ⟨first_kept, rest_kept⟩ := List.forall_mem_cons.1 kept
      have rest_judged (state : State) := induction state rest_kept
        fun state job mem => asked state job (List.mem_cons_of_mem first mem)
      have first_asked := asked state first List.mem_cons_self
      obtain ⟨chunk, none | answer⟩ := first
      · rw [ask, List.map_cons, Findings.judge]
        split
        · rename_i answer next answered
          rw [answered] at first_asked
          simp only at first_asked
          rw [← first_asked, Progress.settle]
          exact rest_judged next _
        · rename_i cause next answered
          rw [answered] at first_asked
          simp only at first_asked
          rw [← first_asked, Progress.settle]
          rfl
      · rw [ask, List.map_cons, Findings.judge, first_kept answer rfl, Progress.settle]
        exact rest_judged state _

end

section

variable {State : Type} {server : Server State} {backend : Backend} {assignment : Assignment}
  {cache : Cache Key}
  (follows : server.Follows backend) (distinguishes : Distinguishes keyOf paragraph)
  (consistent : cache.Consistent keyOf (assignment.options.outcome backend) paragraph)
  (paragraphs : ∀ chunk ∈ assignment.chunks, paragraph chunk)

include follows in
theorem outcome_of_asked (state : State) {job : Job}
    (mem : job ∈ jobs keyOf cache assignment.chunks) :
    (server state (assignment.request job.chunk)).1 =
      assignment.options.outcome backend job.chunk := by
  have chunk_mem : job.chunk ∈ assignment.chunks := by
    rw [← map_chunk_jobs keyOf cache assignment.chunks]
    exact List.mem_map_of_mem mem
  rw [follows, assignment.outcome_request backend chunk_mem]

include distinguishes consistent paragraphs in
theorem outcome_of_kept {job : Job} (mem : job ∈ jobs keyOf cache assignment.chunks)
    {answer : Answer} (kept_eq : job.kept = some answer) :
    assignment.options.outcome backend job.chunk = .ok answer := by
  obtain ⟨index, job_eq⟩ := List.getElem?_of_mem mem
  exact consistent.outcome_of_kept distinguishes paragraphs job_eq kept_eq

include follows distinguishes consistent paragraphs

/-- What a check tells the user follows from the document. -/
theorem told_run (state : State) :
    told (run keyOf server state assignment cache).1 = assignment.verdict backend := by
  have judged := settle_ask keyOf assignment.scope assignment.inTurn state
    (fun job mem answer => outcome_of_kept distinguishes consistent paragraphs mem)
    (fun state job mem => outcome_of_asked follows state mem) Progress.start
  rw [map_chunk_jobs, Progress.findings_start] at judged
  rw [Assignment.verdict, ← judged, run_fst, told]
  cases Progress.start.settle keyOf assignment.scope
    (ask server assignment.request assignment.inTurn state
      (jobs keyOf cache assignment.chunks)).1 <;> rfl

/-- The cache that a check leaves keeps nothing but what comes of the chunks. -/
theorem consistent_run {state after : State} {report : Report} {next : Cache Key}
    (succeeds : run keyOf server state assignment cache = (.ok (report, next), after)) :
    next.Consistent keyOf (assignment.options.outcome backend) paragraph := by
  obtain ⟨records, answered, chunks_eq, -, rfl⟩ := exists_records_of_run succeeds
  have outcomes := outcome_of_mem_ask assignment.inTurn state
    (fun job mem answer => outcome_of_kept distinguishes consistent paragraphs mem)
    (fun state job mem => outcome_of_asked follows state mem)
  rw [answered] at outcomes
  refine Cache.consistent_ofRecords ?_ ?_
  · intro record mem
    refine paragraphs record.chunk ?_
    rw [← chunks_eq]
    exact List.mem_map_of_mem mem
  · intro record mem
    exact outcomes record.settled (List.mem_map_of_mem mem)

end

end Check

namespace Pass

variable {assignment : Assignment} {backend : Backend} {pass : Pass Key} {records : List Record}

/-- What may come of the chunks of a pass is what comes of their paragraphs. -/
def Agrees (outcome : Chunk → Outcome) (_place : Nat) (settled : Settled) : Prop :=
  outcome settled.chunk = settled.outcome

theorem Recorded.answered (recorded : Recorded keyOf assignment (Agrees outcome) pass records) :
    ∀ record ∈ records, outcome record.chunk = .ok record.answer := by
  intro record mem
  obtain ⟨index, found⟩ := List.getElem?_of_mem mem
  exact recorded.records_fit index record found

/-- How a pass ends follows from the document. -/
theorem Recorded.verdict_eq
    (recorded :
      Recorded keyOf assignment (Agrees (assignment.options.outcome backend)) pass records)
    {verdict : Except Abortion (Progress Key)} (ends : pass.verdict? = some verdict) :
    verdict.map (fun progress => progress.findings.told) = assignment.verdict backend := by
  have judged := Findings.judge_records recorded.answered assignment.scope .empty
  cases verdict with
  | ok progress =>
      obtain ⟨chunks_eq, rfl⟩ := recorded.of_succeeds ends
      have judged_all := judged []
      rw [List.append_nil, chunks_eq] at judged_all
      rw [Assignment.verdict, judged_all, Except.map, Progress.findings_recordAll]
      rfl
  | error abortion =>
      obtain ⟨chunk, rest, chunks_eq, failed, diagnostics_eq⟩ := recorded.of_fails ends
      rw [Progress.findings_recordAll] at diagnostics_eq
      rw [Assignment.verdict, ← chunks_eq, judged, Findings.judge, failed]
      simp only [Except.map, Progress.start] at diagnostics_eq ⊢
      rw [← diagnostics_eq]

end Pass
end ProseCheck
