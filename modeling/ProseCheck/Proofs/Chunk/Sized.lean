import ProseCheck.Check.Chunks
import ProseCheck.Proofs.Chunk.Stretch

/-!
# Sized runs

The runs of a conversion have as many octets as the texts that they come from, so an origin never
stops before it starts.
-/

namespace ProseCheck
namespace PositionMap

/-- Whether no run of a position map has a negative number of octets. -/
def IsSized (map : PositionMap) : Prop := ∀ entry ∈ map.entries, 0 ≤ entry.sourceLength

variable {map : PositionMap}

theorem mem_of_entryAt? {index : Int} {entry : Entry} (holds : map.entryAt? index = some entry) :
    entry ∈ map.entries := by
  unfold entryAt? at holds
  simp only at holds
  split at holds
  · contradiction
  · obtain ⟨found, -⟩ := Option.filter_eq_some_iff.1 holds
    exact List.mem_of_getElem? found

/-- An origin does not stop before it starts. -/
theorem IsSized.start_le_stop (sized : map.IsSized) {index : Int} {origin : Origin}
    (resolves : map.resolve index = .ok (some origin)) : origin.start ≤ origin.stop := by
  unfold resolve at resolves
  split at resolves
  · cases resolves
  · rename_i entry holds
    have length_nonneg := sized entry (mem_of_entryAt? holds)
    split at resolves
    · cases resolves
    · split at resolves
      · split at resolves
        · contradiction
        · obtain rfl := Option.some.inj (Except.ok.inj resolves)
          simp only
          omega
      · obtain rfl := Option.some.inj (Except.ok.inj resolves)
        simp only
        omega

end PositionMap

theorem Entry.sized_push {entry : Entry} {entries : List Entry}
    (sized : ∀ run ∈ entries, 0 ≤ run.sourceLength) (entry_sized : 0 ≤ entry.sourceLength) :
    ∀ run ∈ entry.push entries, 0 ≤ run.sourceLength := by
  have appended : ∀ run ∈ entries ++ [entry], 0 ≤ run.sourceLength :=
    List.forall_mem_append.2 ⟨sized, List.forall_mem_singleton.2 entry_sized⟩
  unfold push
  split
  · exact sized
  · split
    · rename_i last last_eq
      obtain ⟨front, rfl⟩ := List.getLast?_eq_some_iff.1 last_eq
      obtain ⟨front_sized, last_sized⟩ := List.forall_mem_append.1 sized
      have last_sized := last_sized last (List.mem_singleton_self last)
      split
      · rw [List.dropLast_concat]
        refine List.forall_mem_append.2 ⟨front_sized, List.forall_mem_singleton.2 ?_⟩
        simp only [join]
        omega
      · exact appended
    · exact List.forall_mem_singleton.2 entry_sized

namespace Piece

theorem sized_entry (piece : Piece) (start : Nat) : 0 ≤ (piece.entry start).sourceLength := by
  cases piece <;> simp [entry]

theorem sized_pushEntries {start : Nat} {entries : List Entry}
    (sized : ∀ run ∈ entries, 0 ≤ run.sourceLength) (pieces : List Piece) :
    ∀ run ∈ pushEntries start entries pieces, 0 ≤ run.sourceLength := by
  induction pieces generalizing start entries with
  | nil => exact sized
  | cons piece rest induction => exact induction (Entry.sized_push sized (piece.sized_entry start))

end Piece

/-- The chunks of a conversion have sized runs. -/
theorem Collector.isSized_of_mem_collect {limit : Int} {interest : Option FileId}
    {language : String} {events : List Event} {chunk : Chunk}
    (mem : chunk ∈ collect limit interest language events) : chunk.map.IsSized := by
  rw [collect_eq_stretches] at mem
  obtain ⟨stretch, -, rfl⟩ := List.mem_map.1 mem
  exact Piece.sized_pushEntries (by simp) _

/-- The chunks of a world have sized runs, be they of its pages or of its files. -/
theorem World.isSized_of_mem_chunks {world : World} {options : Options} {allFiles : Bool}
    {chunk : Chunk} (mem : chunk ∈ world.chunks options allFiles) : chunk.map.IsSized := by
  unfold chunks at mem
  split at mem
  · exact Collector.isSized_of_mem_collect mem
  · obtain ⟨file, -, mem⟩ := List.mem_flatMap.1 mem
    unfold fileChunks at mem
    split at mem
    · exact Collector.isSized_of_mem_collect mem
    · contradiction

end ProseCheck
