import ProseCheck.Proofs.Chunk.Stretch

/-!
# Ends of stretches

Every stretch of a run but the last one is ended by an event that adds no piece and says in which
language the next one begins.  A piece right before that event is therefore the last piece of the
stretch that the event ends, and not of an earlier one.
-/

namespace ProseCheck
namespace Collector

variable {limit : Int} {language : String} {events : List Event} {front back : List Stretch}
  {stretch next : Stretch}

/-- The first stretch is in the language of the chunk in the making. -/
theorem language_of_stretchesFrom {taken : List Event}
    (split : stretchesFrom limit language taken events = stretch :: back) :
    stretch.language = language := by
  induction events generalizing taken with
  | nil =>
      obtain ⟨rfl, -⟩ := List.cons.inj split
      rfl
  | cons event rest induction =>
      unfold stretchesFrom at split
      split at split
      · exact induction split
      · obtain ⟨rfl, -⟩ := List.cons.inj split
        rfl

/-- The event that ends a stretch says in which language the next one begins. -/
theorem exists_successor_of_next {taken : List Event}
    (split : stretchesFrom limit language taken events = front ++ stretch :: next :: back) :
    ∃ event, stretch.ending = some event ∧
      successor? limit stretch.draft event = some next.language := by
  induction events generalizing language taken front with
  | nil =>
      have one := congrArg List.length split
      simp only [stretchesFrom, List.length_append, List.length_cons] at one
      simp only [List.length_nil] at one
      omega
  | cons event rest induction =>
      unfold stretchesFrom at split
      split at split
      · exact induction split
      · rename_i following ends
        cases front with
        | nil =>
            obtain ⟨rfl, rest_split⟩ := List.cons.inj split
            refine ⟨event, rfl, ?_⟩
            rw [language_of_stretchesFrom rest_split]
            exact ends
        | cons first front => exact induction (List.cons.inj split).2

/-- Every stretch that another one follows was ended by an event, and what came before that event
stands in the stretches up to this one. -/
theorem exists_ending_of_next
    (split : stretches limit language events = front ++ stretch :: next :: back) :
    ∃ event, stretch.ending = some event ∧
      successor? limit stretch.draft event = some next.language ∧
      events = front.flatMap Stretch.taken ++ stretch.events ++
        event :: (next :: back).flatMap Stretch.taken := by
  obtain ⟨event, ending, ends⟩ := exists_successor_of_next split
  refine ⟨event, ending, ends, ?_⟩
  rw [← flatMap_taken_stretches limit language events, split, List.flatMap_append,
    List.flatMap_cons, Stretch.taken, ending]
  simp

/-- A piece right before the end of a stretch belongs to that stretch. -/
theorem exists_events_of_next
    (split : stretches limit language events = front ++ stretch :: next :: back)
    {before : List Event} {piece : Piece}
    (seen : front.flatMap Stretch.taken ++ stretch.events = before ++ [.piece piece]) :
    ∃ rest, stretch.events = rest ++ [.piece piece] := by
  rcases List.eq_nil_or_concat stretch.events with empty | ⟨rest, last, concat_eq⟩
  · -- Otherwise it would belong to the stretch before, which no piece ends.
    rw [empty, List.append_nil] at seen
    rcases List.eq_nil_or_concat front with rfl | ⟨earlier, previous, rfl⟩
    · simp at seen
    · rw [List.concat_eq_append] at split seen
      rw [List.append_assoc, List.singleton_append] at split
      obtain ⟨other, ending, ends, -⟩ := exists_ending_of_next split
      rw [List.flatMap_append, List.flatMap_singleton, Stretch.taken, ending, Option.toList_some,
        ← List.append_assoc] at seen
      obtain ⟨-, same⟩ := List.append_inj' seen rfl
      obtain rfl := List.singleton_inj.1 same
      exact absurd (piece?_of_successor? ends) (by simp [Event.piece?])
  · rw [List.concat_eq_append] at concat_eq
    rw [concat_eq, ← List.append_assoc] at seen
    obtain ⟨-, same⟩ := List.append_inj' seen rfl
    exact ⟨rest, by rw [concat_eq, same]⟩

end Collector
end ProseCheck
