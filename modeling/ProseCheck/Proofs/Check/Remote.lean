import ProseCheck.Proofs.Check.FanOut
import ProseCheck.Server.Client

/-!
# Checks over a network

A check that starts without a cache asks about every chunk in order, the chunk at a place with the
call of that number.  If an answer comes of every call, the check succeeds and reports the located
suggestions of the answer on each chunk.
-/

namespace ProseCheck

/-- The server that a client reaches, by what comes back on each call; its state is the number of
calls so far. -/
def Client.server (client : Client) (transmissions : Nat → Transmission) : Server Nat :=
  fun calls request => (client.send request (transmissions calls), calls + 1)

namespace Check

variable {Key : Type} [DecidableEq Key]

/-- An empty cache keeps no answer for any chunk. -/
theorem jobs_empty (keyOf : Text → String → Key) (chunks : List Chunk) :
    jobs keyOf .empty chunks = chunks.map fun chunk => ⟨chunk, none⟩ := by
  apply List.ext_getElem?
  intro place
  rw [jobs, List.getElem?_zipWith, Cache.getElem?_takeAll, List.getElem?_map, List.getElem?_map]
  cases chunks[place]? with
  | none => rfl
  | some chunk => simp [Cache.queue_empty]

variable {client : Client} {transmissions : Nat → Transmission}

/-- An answer is recorded on every chunk that is asked about, that of the call of its number. -/
theorem exists_records_of_answers (request : Chunk → Request) (inTurn : Bool) {calls : Nat}
    {chunks : List Chunk}
    (answers : ∀ place chunk, chunks[place]? = some chunk →
      ∃ answer, client.send (request chunk) (transmissions (calls + place)) = .ok answer) :
    ∃ records : List Record,
      (ask (client.server transmissions) request inTurn calls
          (chunks.map fun chunk => ⟨chunk, none⟩)).1 = records.map Record.settled ∧
        ∀ place chunk, chunks[place]? = some chunk →
          ∃ answer, client.send (request chunk) (transmissions (calls + place)) = .ok answer ∧
            ⟨chunk, false, answer⟩ ∈ records := by
  induction chunks generalizing calls with
  | nil => exact ⟨[], rfl, by simp⟩
  | cons chunk rest induction =>
      have shifted : ∀ place, calls + 1 + place = calls + (place + 1) := fun place => by omega
      obtain ⟨answer, answer_eq⟩ := answers 0 chunk rfl
      rw [Nat.add_zero] at answer_eq
      obtain ⟨records, asked_eq, recorded⟩ := induction fun place other other_eq => by
        rw [shifted]
        exact answers (place + 1) other other_eq
      refine ⟨⟨chunk, false, answer⟩ :: records, ?_, fun place other other_eq => ?_⟩
      · have answered : client.server transmissions calls (request chunk) =
            (.ok answer, calls + 1) := by
          simp only [Client.server, answer_eq]
        rw [List.map_cons, ask, answered, List.map_cons, ← asked_eq]
        rfl
      · cases place with
        | zero =>
            obtain rfl : chunk = other := by simpa using other_eq
            exact ⟨answer, answer_eq, List.mem_cons_self⟩
        | succ place =>
            obtain ⟨later, later_eq, mem⟩ := recorded place other (by simpa using other_eq)
            rw [shifted] at later_eq
            exact ⟨later, later_eq, List.mem_cons_of_mem _ mem⟩

/-- A check all of whose calls are answered succeeds, and reports what is located of each answer. -/
theorem run_of_answers (keyOf : Text → String → Key) {assignment : Assignment}
    (answers : ∀ place chunk, assignment.chunks[place]? = some chunk →
      ∃ answer, client.send (assignment.request chunk) (transmissions place) = .ok answer) :
    ∃ report cache,
      (run keyOf (client.server transmissions) 0 assignment .empty).1 = .ok (report, cache) ∧
        ∀ place chunk, assignment.chunks[place]? = some chunk →
          ∀ answer, client.send (assignment.request chunk) (transmissions place) = .ok answer →
            answer.filterMap (chunk.locate? assignment.scope) ⊆ report.diagnostics := by
  obtain ⟨records, asked_eq, recorded⟩ :=
    exists_records_of_answers assignment.request assignment.inTurn
      fun place chunk chunk_eq => by
        rw [Nat.zero_add]
        exact answers place chunk chunk_eq
  rw [run_fst, jobs_empty, asked_eq, Progress.settle_map_settled]
  refine ⟨_, _, rfl, fun place chunk chunk_eq answer answer_eq => ?_⟩
  obtain ⟨other, other_eq, mem⟩ := recorded place chunk chunk_eq
  rw [Nat.zero_add, answer_eq] at other_eq
  obtain rfl := Except.ok.inj other_eq
  have reported := (complete_recordAll keyOf assignment.scope records).diagnostics_eq
  intro diagnostic located
  rw [report, reported]
  exact List.mem_flatMap.2 ⟨_, mem, located⟩

end Check
end ProseCheck
