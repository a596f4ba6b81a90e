import ProseCheck.Location

/-!
# Joining candidates

Candidates for locations come in the order of the file: each repeats an earlier one or starts where
the earlier ones have ended.  Inserting them one after the other then leaves locations that stand
apart from each other, start and stop where candidates do, and hold the octets of the candidates
and no others.
-/

namespace ProseCheck
namespace Location

/-- Whether an octet lies in a location. -/
def Holds (location : Location) (octet : Int) : Prop :=
  location.start ≤ octet ∧ octet < location.stop

theorem within_iff {inner outer : Location} :
    inner.within outer = true ↔
      outer.file = inner.file ∧ outer.start ≤ inner.start ∧ inner.stop ≤ outer.stop := by
  simp [within, and_assoc]

theorem Holds.of_within {inner outer : Location} (within : inner.within outer = true) {octet : Int}
    (holds : inner.Holds octet) : outer.Holds octet := by
  obtain ⟨-, start_le, stop_le⟩ := within_iff.1 within
  obtain ⟨le_octet, octet_lt⟩ := holds
  constructor <;> omega

/-- What inserting a candidate makes of locations. -/
inductive Inserts (candidate : Location) : List Location → List Location → Prop where
  /-- Within a location it adds nothing. -/
  | absorbed {locations : List Location} {location : Location} (mem : location ∈ locations)
      (inside : candidate.within location = true) : Inserts candidate locations locations
  /-- Where the last location stops it extends that one. -/
  | extended {front : List Location} {last : Location}
      (outside : ∀ location ∈ front ++ [last], candidate.within location = false)
      (same_file : last.file = candidate.file) (touches : last.stop = candidate.start) :
      Inserts candidate (front ++ [last]) (front ++ [⟨last.file, last.start, candidate.stop⟩])
  /-- Elsewhere it becomes a location itself. -/
  | appended {locations : List Location}
      (outside : ∀ location ∈ locations, candidate.within location = false)
      (untouched : ∀ last ∈ locations.getLast?, last.file = candidate.file →
        last.stop ≠ candidate.start) :
      Inserts candidate locations (locations ++ [candidate])

/-- Everything that inserting a candidate does. -/
theorem inserts (locations : List Location) (candidate : Location) :
    Inserts candidate locations (insert locations candidate) := by
  unfold insert
  split
  · rename_i inside
    obtain ⟨location, mem, inside⟩ := List.any_eq_true.1 inside
    exact .absorbed mem inside
  · rename_i outside
    have outside : ∀ location ∈ locations, candidate.within location = false := by
      simpa using outside
    split
    · rename_i last last_eq
      obtain ⟨front, rfl⟩ := List.getLast?_eq_some_iff.1 last_eq
      split
      · rename_i joins
        rw [List.dropLast_concat]
        exact .extended outside joins.1 joins.2
      · rename_i parts
        refine .appended outside ?_
        rintro other other_eq same_file touches
        obtain rfl : last = other := by simpa using other_eq
        exact parts ⟨same_file, touches⟩
    · rename_i no_last
      obtain rfl := List.getLast?_eq_none_iff.1 no_last
      exact .appended outside (by simp)

theorem insert_ne_nil (locations : List Location) (candidate : Location) :
    insert locations candidate ≠ [] := by
  have inserts := inserts locations candidate
  generalize insert locations candidate = result at inserts ⊢
  cases inserts with
  | absorbed mem inside => exact List.ne_nil_of_mem mem
  | extended => simp
  | appended => simp

/-- A candidate repeats an earlier one or starts where that has ended. -/
def Follows (candidate earlier : Location) : Prop :=
  candidate = earlier ∨ earlier.stop ≤ candidate.start

/-- A location of a file that starts and stops where some candidates do, and holds only what they
hold. -/
structure DrawnFrom (file : FileId) (candidates : List Location) (location : Location) : Prop where
  file_eq : location.file = file
  start_le_stop : location.start ≤ location.stop
  starts : ∃ candidate ∈ candidates, candidate.start = location.start
  stops : ∃ candidate ∈ candidates, candidate.stop = location.stop
  fills : ∀ octet, location.Holds octet → ∃ candidate ∈ candidates, candidate.Holds octet

namespace DrawnFrom

variable {file : FileId} {candidates : List Location} {location candidate : Location}

theorem mono (drawn : DrawnFrom file candidates location) {more : List Location}
    (subset : candidates ⊆ more) : DrawnFrom file more location where
  file_eq := drawn.file_eq
  start_le_stop := drawn.start_le_stop
  starts := by
    obtain ⟨candidate, mem, start_eq⟩ := drawn.starts
    exact ⟨candidate, subset mem, start_eq⟩
  stops := by
    obtain ⟨candidate, mem, stop_eq⟩ := drawn.stops
    exact ⟨candidate, subset mem, stop_eq⟩
  fills := by
    intro octet holds
    obtain ⟨candidate, mem, candidate_holds⟩ := drawn.fills octet holds
    exact ⟨candidate, subset mem, candidate_holds⟩

theorem self (file_eq : location.file = file) (start_le_stop : location.start ≤ location.stop)
    (mem : location ∈ candidates) : DrawnFrom file candidates location :=
  ⟨file_eq, start_le_stop, ⟨location, mem, rfl⟩, ⟨location, mem, rfl⟩,
    fun _ holds => ⟨location, mem, holds⟩⟩

/-- A location and a candidate that starts where it stops make one location. -/
theorem extend (drawn : DrawnFrom file candidates location) (mem : candidate ∈ candidates)
    (start_le_stop : candidate.start ≤ candidate.stop) (touches : location.stop = candidate.start) :
    DrawnFrom file candidates ⟨location.file, location.start, candidate.stop⟩ where
  file_eq := drawn.file_eq
  start_le_stop := by
    have := drawn.start_le_stop
    simp only
    omega
  starts := drawn.starts
  stops := ⟨candidate, mem, rfl⟩
  fills := by
    rintro octet ⟨le_octet, octet_lt⟩
    by_cases inside : octet < location.stop
    · exact drawn.fills octet ⟨le_octet, inside⟩
    · exact ⟨candidate, mem, by omega, octet_lt⟩

end DrawnFrom

/-- Locations that stand apart from each other, each drawn from candidates, and cover them all. -/
structure SumsUp (file : FileId) (candidates locations : List Location) : Prop where
  apart : locations.Pairwise fun earlier later => earlier.stop < later.start
  drawn : ∀ location ∈ locations, DrawnFrom file candidates location
  covers : ∀ candidate ∈ candidates, ∃ location ∈ locations, candidate.within location = true

namespace SumsUp

variable {file : FileId} {candidates locations : List Location} {candidate : Location}

theorem nil (file : FileId) : SumsUp file [] [] := by
  constructor <;> simp

/-- The locations hold the octets of the candidates and no others. -/
theorem exists_holds_iff (sums : SumsUp file candidates locations) (octet : Int) :
    (∃ location ∈ locations, location.Holds octet) ↔
      ∃ candidate ∈ candidates, candidate.Holds octet := by
  constructor
  · rintro ⟨location, mem, holds⟩
    exact (sums.drawn location mem).fills octet holds
  · rintro ⟨candidate, mem, holds⟩
    obtain ⟨location, location_mem, within⟩ := sums.covers candidate mem
    exact ⟨location, location_mem, holds.of_within within⟩

/-- A candidate within a location changes nothing. -/
theorem absorb (sums : SumsUp file candidates locations)
    (inside : ∃ location ∈ locations, candidate.within location = true) :
    SumsUp file (candidates ++ [candidate]) locations where
  apart := sums.apart
  drawn := fun location mem => (sums.drawn location mem).mono (List.subset_append_left _ _)
  covers := by
    intro other mem
    rcases List.mem_append.1 mem with mem | mem
    · exact sums.covers other mem
    · obtain rfl := List.mem_singleton.1 mem
      exact inside

/-- A candidate that starts behind all locations becomes one itself. -/
theorem concat (sums : SumsUp file candidates locations) (file_eq : candidate.file = file)
    (start_le_stop : candidate.start ≤ candidate.stop)
    (behind : ∀ location ∈ locations, location.stop < candidate.start) :
    SumsUp file (candidates ++ [candidate]) (locations ++ [candidate]) where
  apart := by
    refine List.pairwise_append.2 ⟨sums.apart, List.pairwise_singleton _ _, ?_⟩
    intro location mem other other_mem
    obtain rfl := List.mem_singleton.1 other_mem
    exact behind location mem
  drawn := by
    intro location mem
    rcases List.mem_append.1 mem with mem | mem
    · exact (sums.drawn location mem).mono (List.subset_append_left _ _)
    · obtain rfl := List.mem_singleton.1 mem
      exact .self file_eq start_le_stop (by simp)
  covers := by
    intro other mem
    rcases List.mem_append.1 mem with mem | mem
    · obtain ⟨location, location_mem, within⟩ := sums.covers other mem
      exact ⟨location, List.mem_append_left _ location_mem, within⟩
    · exact ⟨other, List.mem_append_right _ mem, within_iff.2 ⟨rfl, Int.le_refl _, Int.le_refl _⟩⟩

/-- A candidate that starts where the last location stops extends it. -/
theorem extend {last : Location} (sums : SumsUp file candidates (locations ++ [last]))
    (file_eq : candidate.file = file) (start_le_stop : candidate.start ≤ candidate.stop)
    (touches : last.stop = candidate.start) :
    SumsUp file (candidates ++ [candidate])
      (locations ++ [⟨last.file, last.start, candidate.stop⟩]) := by
  obtain ⟨front_apart, -, front_last⟩ := List.pairwise_append.1 sums.apart
  have last_drawn := sums.drawn last (by simp)
  constructor
  case apart =>
    refine List.pairwise_append.2 ⟨front_apart, List.pairwise_singleton _ _, ?_⟩
    intro location mem other other_mem
    obtain rfl := List.mem_singleton.1 other_mem
    exact front_last location mem last (by simp)
  case drawn =>
    intro location mem
    rcases List.mem_append.1 mem with mem | mem
    · have drawn := sums.drawn location (List.mem_append_left _ mem)
      exact drawn.mono (List.subset_append_left _ _)
    · obtain rfl := List.mem_singleton.1 mem
      exact (last_drawn.mono (List.subset_append_left _ _)).extend (by simp) start_le_stop touches
  case covers =>
    have last_mem : (⟨last.file, last.start, candidate.stop⟩ : Location) ∈
        locations ++ [⟨last.file, last.start, candidate.stop⟩] := by simp
    intro other mem
    rcases List.mem_append.1 mem with mem | mem
    · obtain ⟨location, location_mem, within⟩ := sums.covers other mem
      rcases List.mem_append.1 location_mem with front_mem | is_last
      · exact ⟨location, List.mem_append_left _ front_mem, within⟩
      · obtain rfl := List.mem_singleton.1 is_last
        obtain ⟨same_file, start_le, stop_le⟩ := within_iff.1 within
        refine ⟨_, last_mem, within_iff.2 ⟨same_file, start_le, ?_⟩⟩
        simp only
        omega
    · obtain rfl := List.mem_singleton.1 mem
      have := last_drawn.start_le_stop
      refine ⟨_, last_mem, within_iff.2 ⟨?_, ?_, Int.le_refl _⟩⟩
      · rw [last_drawn.file_eq, file_eq]
      · simp only
        omega

/-- Inserting a candidate that comes in the order of the file sums it up with the others. -/
theorem insert (sums : SumsUp file candidates locations) (file_eq : candidate.file = file)
    (start_le_stop : candidate.start ≤ candidate.stop)
    (follows : ∀ earlier ∈ candidates, candidate.Follows earlier) :
    SumsUp file (candidates ++ [candidate]) (Location.insert locations candidate) := by
  have inserts := inserts locations candidate
  generalize Location.insert locations candidate = result at inserts ⊢
  -- A repeated candidate lies within a location, so any other one starts behind all of them.
  have stop_le (outside : ∀ location ∈ locations, candidate.within location = false) :
      ∀ location ∈ locations, location.stop ≤ candidate.start := by
    intro location mem
    obtain ⟨earlier, earlier_mem, stop_eq⟩ := (sums.drawn location mem).stops
    rcases follows earlier earlier_mem with rfl | stop_le
    · obtain ⟨other, other_mem, inside⟩ := sums.covers candidate earlier_mem
      rw [outside other other_mem] at inside
      contradiction
    · rwa [← stop_eq]
  cases inserts with
  | absorbed mem inside => exact sums.absorb ⟨_, mem, inside⟩
  | extended outside same_file touches => exact sums.extend file_eq start_le_stop touches
  | appended outside untouched =>
      refine sums.concat file_eq start_le_stop ?_
      rcases List.eq_nil_or_concat locations with rfl | ⟨front, last, rfl⟩
      · simp
      · rw [List.concat_eq_append] at sums stop_le outside untouched ⊢
        intro location mem
        have last_le := stop_le outside last (by simp)
        have same_file : last.file = candidate.file := by
          rw [(sums.drawn last (by simp)).file_eq, file_eq]
        have last_ne := untouched last (by simp) same_file
        rcases List.mem_append.1 mem with mem | mem
        · -- An earlier location ends before the last one starts.
          have before_last := (List.pairwise_append.1 sums.apart).2.2 location mem last (by simp)
          have := (sums.drawn last (by simp)).start_le_stop
          omega
        · obtain rfl := List.mem_singleton.1 mem
          omega

/-- Inserting candidates in the order of the file sums them up. -/
theorem foldl_insert (sums : SumsUp file candidates locations) {more : List Location}
    (files : ∀ candidate ∈ more, candidate.file = file)
    (ordered : ∀ candidate ∈ more, candidate.start ≤ candidate.stop)
    (follow : (candidates ++ more).Pairwise fun earlier later => later.Follows earlier) :
    SumsUp file (candidates ++ more) (more.foldl Location.insert locations) := by
  induction more generalizing candidates locations with
  | nil => simpa using sums
  | cons candidate rest induction =>
      obtain ⟨file_eq, rest_files⟩ := List.forall_mem_cons.1 files
      obtain ⟨start_le_stop, rest_ordered⟩ := List.forall_mem_cons.1 ordered
      have follows : ∀ earlier ∈ candidates, candidate.Follows earlier := by
        intro earlier mem
        exact (List.pairwise_append.1 follow).2.2 earlier mem candidate List.mem_cons_self
      rw [List.append_cons] at follow ⊢
      rw [List.foldl_cons]
      exact induction (sums.insert file_eq start_le_stop follows) rest_files rest_ordered follow

end SumsUp
end Location
end ProseCheck
