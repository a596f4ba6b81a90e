import ProseCheck.Proofs.Check.Remote
import ProseCheck.Proofs.Location.Canonical

/-!
# Shares of files

A check of all files of a document is the sum of the checks of its files, if the answers of the
server follow from what it is asked and no cache is at hand.  The chunks of a file come from nodes
of that file and no other, so it makes no difference to them whether the whole document is reported
or their file alone.
-/

namespace ProseCheck

/-- A server never fails and answers by the request alone. -/
def Server.Answers {State : Type} (server : Server State) (answers : Request → Answer) : Prop :=
  ∀ state request, (server state request).1 = .ok (answers request)

/-- Number of suggestions of the answer of a record that have no location. -/
def Record.dropped (scope : Scope) (record : Record) : Nat :=
  record.answer.countP fun suggestion => (record.chunk.locate? scope suggestion).isNone

/-- The remark on a number of dropped suggestions. -/
def Check.remarks (dropped : Nat) : List String :=
  if dropped = 0 then [] else [s!"{dropped} suggestions had no source location"]

namespace Findings

variable (scope : Scope)

theorem dropped_add (chunk : Chunk) (findings : Findings) (answer : Answer) :
    (findings.add scope chunk.map answer).dropped =
      findings.dropped +
        answer.countP fun suggestion => (chunk.locate? scope suggestion).isNone := by
  induction answer generalizing findings with
  | nil => rfl
  | cons first rest induction =>
      have step : findings.add scope chunk.map (first :: rest) =
          (addOne scope chunk.map findings first).add scope chunk.map rest := rfl
      rw [step, induction, addOne_eq, List.countP_cons, Nat.add_comm (List.countP _ rest),
        Nat.add_assoc]

theorem dropped_addAll (findings : Findings) (records : List Record) :
    (findings.addAll scope records).dropped =
      findings.dropped + (records.map (Record.dropped scope)).sum := by
  induction records generalizing findings with
  | nil => rfl
  | cons first rest induction =>
      have step : findings.addAll scope (first :: rest) =
          (findings.add scope first.chunk.map first.answer).addAll scope rest := rfl
      rw [step, induction, dropped_add, List.map_cons, List.sum_cons, Record.dropped]
      omega

end Findings

/-- A report, and the number of suggestions that were dropped for it. -/
structure Account where
  /-- The report. -/
  report : Report
  /-- Number of suggestions without a location. -/
  dropped : Nat

namespace Account

/-- The answers on chunks, none of which was kept from before. -/
def records (answers : Request → Answer) (request : Chunk → Request) (chunks : List Chunk) :
    List Record :=
  chunks.map fun chunk => ⟨chunk, false, answers (request chunk)⟩

/-- What is reported of records, all of which are new. -/
def ofRecords (scope : Scope) (records : List Record) : Account where
  report :=
    { diagnostics := records.flatMap (Record.diagnostics scope)
      chunks := records.length
      checked := records.length
      cached := 0
      warnings := Check.remarks (records.map (Record.dropped scope)).sum }
  dropped := (records.map (Record.dropped scope)).sum

/-- One account says what others say together. -/
structure Sums (total : Account) (parts : List Account) : Prop where
  diagnostics_eq : total.report.diagnostics = parts.flatMap fun part => part.report.diagnostics
  chunks_eq : total.report.chunks = (parts.map fun part => part.report.chunks).sum
  checked_eq : total.report.checked = (parts.map fun part => part.report.checked).sum
  cached_eq : total.report.cached = (parts.map fun part => part.report.cached).sum
  dropped_eq : total.dropped = (parts.map Account.dropped).sum

/-- The account of the records of some files is the sum of those of each file. -/
theorem sums_flatMap {File : Type} (scope : Scope) (files : List File)
    (records : File → List Record) :
    Sums (ofRecords scope (files.flatMap records))
      (files.map fun file => ofRecords scope (records file)) where
  diagnostics_eq := by simp [ofRecords, List.flatMap_assoc, List.flatMap_map]
  chunks_eq := by simp [ofRecords, List.length_flatMap, Function.comp_def]
  checked_eq := by simp [ofRecords, List.length_flatMap, Function.comp_def]
  cached_eq := by simp [ofRecords, Function.comp_def]
  dropped_eq := by
    induction files with
    | nil => rfl
    | cons file rest induction => simpa [ofRecords] using induction

/-- Scopes in which the suggestions of records have the same locations give the same account. -/
theorem ofRecords_congr {scope other : Scope} {records : List Record}
    (same : ∀ record ∈ records, record.chunk.locate? scope = record.chunk.locate? other) :
    ofRecords scope records = ofRecords other records := by
  have diagnostics_eq : records.flatMap (Record.diagnostics scope) =
      records.flatMap (Record.diagnostics other) :=
    List.flatMap_congr fun record mem => by rw [Record.diagnostics, same record mem]; rfl
  have dropped_eq : records.map (Record.dropped scope) = records.map (Record.dropped other) :=
    List.map_congr_left fun record mem => by rw [Record.dropped, same record mem]; rfl
  rw [ofRecords, diagnostics_eq, dropped_eq, ofRecords]

end Account

namespace Check

variable {Key : Type} [DecidableEq Key] (keyOf : Text → String → Key)
  {answers : Request → Answer}

/-- What new records report. -/
theorem report_recordAll (scope : Scope) {records : List Record}
    (all_new : ∀ record ∈ records, record.kept = false) :
    report records.length (Progress.start.recordAll keyOf scope records : Progress Key) =
      (Account.ofRecords scope records).report := by
  have none_kept : records.countP Record.kept = 0 := by
    simpa [List.countP_eq_zero] using all_new
  have all_asked : records.countP (fun record => !record.kept) = records.length := by
    simpa [List.countP_eq_length] using all_new
  have diagnostics_eq := Findings.diagnostics_addAll scope .empty records
  have dropped_eq := Findings.dropped_addAll scope .empty records
  rw [Findings.empty, List.nil_append] at diagnostics_eq
  rw [Findings.empty, Nat.zero_add] at dropped_eq
  rw [report, Progress.recordAll_eq]
  simp only [Progress.start, Findings.empty, Account.ofRecords, remarks, none_kept, all_asked,
    diagnostics_eq, dropped_eq, Nat.zero_add]

/-- A server that always answers is asked about every chunk, in order. -/
theorem ask_answers {State : Type} {server : Server State} (answering : server.Answers answers)
    (request : Chunk → Request) (inTurn : Bool) (state : State) (chunks : List Chunk) :
    (ask server request inTurn state (chunks.map fun chunk => ⟨chunk, none⟩)).1 =
      (Account.records answers request chunks).map Record.settled := by
  induction chunks generalizing state with
  | nil => rfl
  | cons chunk rest induction =>
      have answered := answering state (request chunk)
      rw [List.map_cons, ask]
      split
      · rename_i answer next served
        rw [served] at answered
        obtain rfl := Except.ok.inj answered
        simp only [induction]
        rfl
      · rename_i cause next served
        rw [served] at answered
        contradiction

/-- What is foreseen if every request is answered. -/
theorem foreseen_answers (request : Chunk → Request) {chunks : List Chunk}
    {outcomes : Nat → Outcome} (answered : ∀ place chunk, chunks[place]? = some chunk →
      outcomes place = .ok (answers (request chunk))) :
    foreseen keyOf .empty chunks outcomes =
      (Account.records answers request chunks).map Record.settled := by
  apply List.ext_getElem?
  intro place
  rw [foreseen, jobs_empty, List.getElem?_mapIdx, List.getElem?_map, List.getElem?_map,
    Account.records, List.getElem?_map]
  cases chunk_eq : chunks[place]? with
  | none => rfl
  | some chunk => simp [Job.foresee, Record.settled, answered place chunk chunk_eq]

/-- A check without a cache comes to an account, whatever server gives the answers, and in whatever
order they come back. -/
structure ComesTo (keyOf : Text → String → Key) (answers : Request → Answer)
    (assignment : Assignment) (account : Account) : Prop where
  run : ∀ {State : Type} (server : Server State) (state : State), server.Answers answers →
    ∃ next, (Check.run keyOf server state assignment .empty).1 = .ok (account.report, next)
  course : ∀ {outcomes : Nat → Outcome} {marks : List (Option Request)} {pass : Pass Key},
    (∀ place chunk, assignment.chunks[place]? = some chunk →
      outcomes place = .ok (answers (assignment.request chunk))) →
    Pass.Course keyOf outcomes (.start keyOf assignment .empty) marks pass →
      ∀ verdict, pass.verdict? = some verdict →
        ∃ progress, verdict = .ok progress ∧
          report assignment.chunks.length progress = account.report
  warnings_eq : account.report.warnings = remarks account.dropped

/-- A check comes to the account of the answers on its chunks. -/
theorem comesTo_ofRecords (keyOf : Text → String → Key) (answers : Request → Answer)
    (assignment : Assignment) :
    ComesTo keyOf answers assignment
      (.ofRecords assignment.scope
        (Account.records answers assignment.request assignment.chunks)) := by
  have all_new : ∀ record ∈ Account.records answers assignment.request assignment.chunks,
      record.kept = false := by
    simp [Account.records]
  have report_eq := report_recordAll keyOf assignment.scope all_new
  rw [Account.records, List.length_map, ← Account.records] at report_eq
  constructor
  case run =>
    intro State server state answering
    rw [run_fst, jobs_empty, ask_answers answering, Progress.settle_map_settled, ← report_eq]
    exact ⟨_, rfl⟩
  case course =>
    intro outcomes marks pass answered course verdict ends
    rw [Pass.start_eq_ofChunks] at course
    rw [course.onCourse.verdict_eq ends, foreseen_answers keyOf assignment.request answered,
      Progress.settle_map_settled]
    exact ⟨_, rfl, report_eq⟩
  case warnings_eq => rfl

end Check

namespace World

variable {world : World} {file : FileId}

/-- A file of a world can be made the main one, and nothing else changes. -/
theorem exists_withMain (mem : file ∈ world.files) :
    ∃ main, world.withMain (some file) = .ok main ∧ main.sources = world.sources ∧
      main.main = some file ∧ main.pages = world.pages := by
  rw [withMain, Option.some_or]
  simp only
  rw [dif_pos (by exact mem)]
  exact ⟨_, rfl, rfl, rfl, rfl⟩

theorem fileChunks_congr {other : World} (sources_eq : other.sources = world.sources)
    (options : Options) (file : FileId) :
    other.fileChunks options file = world.fileChunks options file := by
  rw [fileChunks, fileChunks, source?, source?, sources_eq]

theorem find?_congr {other : World} (sources_eq : other.sources = world.sources) (span : Span) :
    other.find? span = world.find? span := by
  simp only [find?, source?, sources_eq]

/-- A character of a chunk of a file that comes from a node comes from one of that file. -/
theorem file_of_origin {options : Options} {chunk : Chunk}
    (mem : chunk ∈ world.fileChunks options file) {index : Nat}
    (inside : index < chunk.stream.length) {origin : Origin}
    (found : chunk.map.origin? index = some origin) : origin.span.file = some file := by
  rw [fileChunks] at mem
  split at mem
  · rename_i source source_eq
    have source_mem := List.mem_of_find?_eq_some source_eq
    have id_eq : source.id = file := by simpa using List.find?_some source_eq
    rw [source.eq_ofTree] at source_mem mem
    rw [Markup.convert, Collector.collect_eq_stretches] at mem
    obtain ⟨stretch, stretch_mem, rfl⟩ := List.mem_map.1 mem
    have shown := Markup.shown_of_mem_stretches (List.mem_filter.1 stretch_mem).1
    have resolved := stretch.chunk.map.resolve_isOk inside
    rw [found] at resolved
    rw [(Markup.find?_of_resolve source_mem shown inside resolved).2.1, id_eq]
  · contradiction

end World

/-- The locations on a chunk of a file are the same whether all files are reported or only that
one. -/
theorem Chunk.locate?_of_file {world main : World} {file : FileId} {options : Options}
    {chunk : Chunk} (mem : chunk ∈ world.fileChunks options file)
    (sources_eq : main.sources = world.sources) (ignored : List String) :
    chunk.locate? ⟨world, none, ignored⟩ = chunk.locate? ⟨main, some file, ignored⟩ := by
  have candidate_eq : ∀ suggestion, ∀ index ∈ chunk.map.covered suggestion,
      chunk.map.candidate? world none ignored index =
        chunk.map.candidate? main (some file) ignored index := by
    intro suggestion index index_mem
    have inside := Markup.lt_of_mem_covered index_mem
    unfold PositionMap.candidate?
    cases origin_eq : chunk.map.origin? index with
    | none => rfl
    | some origin =>
        have file_eq := World.file_of_origin mem inside origin_eq
        simp [file_eq, World.find?_congr sources_eq]
  funext suggestion
  rw [locate?, locate?, PositionMap.locations, PositionMap.locations,
    List.filterMap_congr (candidate_eq suggestion)]

namespace Check

variable {Key : Type} [DecidableEq Key]

/-- A check of all files is the sum of the checks of its files.  In a world without pages whose
files have names, and with a server that answers each request as it is worded, a check of all files
without a cache reports the diagnostics of the checks with each file as the main one, in the order
of the files, and counts as many chunks, checked chunks and dropped suggestions as they do
together. -/
theorem check_of_all_files (keyOf : Text → String → Key) (answers : Request → Answer)
    (options : Options) {world : World} (no_pages : world.pages = none)
    (named : "" ∉ world.files) :
    ∃ total parts, ComesTo keyOf answers ⟨world, options, true⟩ total ∧
      List.Forall₂
        (fun file part => ∃ main, world.withMain (some file) = .ok main ∧
          ComesTo keyOf answers ⟨main, options, false⟩ part) world.files parts ∧
      total.Sums parts := by
  have whole := comesTo_ofRecords keyOf answers ⟨world, options, true⟩
  have chunks_eq : Assignment.chunks ⟨world, options, true⟩ =
      world.files.flatMap (world.fileChunks options) :=
    World.chunks_allFiles no_pages options
  rw [chunks_eq, Account.records, List.map_flatMap] at whole
  refine ⟨_, _, whole, ?_, Account.sums_flatMap _ _ _⟩
  refine List.forall₂_map_right_iff.2 (List.forall₂_same.2 fun file mem => ?_)
  obtain ⟨main, main_eq, sources_eq, main_file, pages_eq⟩ := World.exists_withMain mem
  have file_named : file ≠ "" := fun unnamed => named (unnamed ▸ mem)
  have part := comesTo_ofRecords keyOf answers ⟨main, options, false⟩
  have part_chunks : Assignment.chunks ⟨main, options, false⟩ = world.fileChunks options file := by
    rw [Assignment.chunks, World.chunks_main (pages_eq.trans no_pages) options main_file file_named,
      World.fileChunks_congr sources_eq]
  refine ⟨main, main_eq, ?_⟩
  rw [part_chunks] at part
  have scope_eq : Assignment.scope ⟨main, options, false⟩ =
      ⟨main, some file, options.ignoreFunctions⟩ := by
    simp [Assignment.scope, main_file]
  rw [scope_eq, ← Account.ofRecords_congr] at part
  · exact part
  · intro record record_mem
    obtain ⟨chunk, chunk_mem, rfl⟩ := List.mem_map.1 record_mem
    exact Chunk.locate?_of_file chunk_mem sources_eq _

/-- Two files of one word each, the second of which is the main one. -/
def twoFiles : World where
  sources :=
    [.ofTree "intro" (.inner .markup [.leaf .text ['S', 'o']]),
      .ofTree "main" (.inner .markup [.leaf .text ['N', 'o']])]
  main := some "main"
  pages := none
  distinct := by decide
  main_mem := by decide

/-- A remark on the first word of every request, and one on nothing. -/
def wordRemarks (_ : Request) : Answer :=
  [⟨0, 2, "word", "", "", []⟩, ⟨9, 9, "nothing", "", "", []⟩]

theorem check_of_all_files_twoFiles :
    ∃ total parts, ComesTo Prod.mk wordRemarks ⟨twoFiles, .standard, true⟩ total ∧
      total.Sums parts ∧ parts.length = 2 ∧
        total.report.diagnostics.map Diagnostic.locations = [[⟨"intro", 0, 2⟩], [⟨"main", 0, 2⟩]] ∧
          total.report.warnings = ["2 suggestions had no source location"] := by
  have no_pages : twoFiles.pages = none := rfl
  obtain ⟨total, parts, whole, shares, sums⟩ :=
    check_of_all_files Prod.mk wordRemarks .standard no_pages (by decide)
  obtain ⟨next, succeeds⟩ := whole.run (.ofFunction fun request => .ok (wordRemarks request)) ()
    fun _ _ => rfl
  have told : ((run Prod.mk (.ofFunction fun request => .ok (wordRemarks request)) ()
      ⟨twoFiles, .standard, true⟩ .empty).1.map fun (report, _) =>
        (report.diagnostics.map Diagnostic.locations, report.warnings)).toOption =
      some ([[⟨"intro", 0, 2⟩], [⟨"main", 0, 2⟩]], ["2 suggestions had no source location"]) := by
    decide +kernel
  rw [succeeds] at told
  obtain ⟨locations_eq, warnings_eq⟩ := Prod.mk.inj (Option.some.inj told)
  exact ⟨total, parts, whole, sums, shares.length_eq.symm, locations_eq, warnings_eq⟩

end Check
end ProseCheck
