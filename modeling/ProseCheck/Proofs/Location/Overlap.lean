import ProseCheck.Proofs.Layout.Runs
import ProseCheck.Proofs.Location.Union
import ProseCheck.Proofs.Location.Verbatim

/-!
# Locations that overlap

A candidate within a location adds nothing, so no location repeats what one before it holds.  But a
candidate that holds more than a location does, as the node of a text after the text itself, stands
beside it and holds its octets again.  Locations share no octets exactly when there is no such
candidate.
-/

namespace ProseCheck
namespace Location

/-- Locations that are of two files or share no octet. -/
def Apart (location other : Location) : Prop :=
  location.file = other.file → ∀ octet, location.Holds octet → ¬ other.Holds octet

/-- A candidate that lies within one of some locations or shares no octet with any. -/
def Fits (candidate : Location) (locations : List Location) : Prop :=
  (∃ location ∈ locations, candidate.within location = true) ∨
    ∀ location ∈ locations, location.Apart candidate

/-- Locations of which none lies within one before it. -/
def AllNew (locations : List Location) : Prop :=
  locations.Pairwise fun earlier later => later.within earlier = false

variable {locations candidates result : List Location} {candidate last location : Location}

theorem within_refl (location : Location) : location.within location = true :=
  within_iff.2 ⟨rfl, Int.le_refl _, Int.le_refl _⟩

theorem within_trans {inner middle outer : Location} (inner_within : inner.within middle = true)
    (middle_within : middle.within outer = true) : inner.within outer = true := by
  obtain ⟨inner_file, inner_start, inner_stop⟩ := within_iff.1 inner_within
  obtain ⟨middle_file, middle_start, middle_stop⟩ := within_iff.1 middle_within
  exact within_iff.2 ⟨middle_file.trans inner_file, by omega, by omega⟩

/-- A location is apart from one that a candidate extends if it is apart from both. -/
theorem apart_joined_iff (last_ordered : last.start ≤ last.stop)
    (ordered : candidate.start ≤ candidate.stop) (same_file : last.file = candidate.file)
    (touches : last.stop = candidate.start) :
    location.Apart ⟨last.file, last.start, candidate.stop⟩ ↔
      location.Apart last ∧ location.Apart candidate := by
  simp only [Apart, holds_joined_iff last_ordered ordered touches, ← same_file, not_or]
  constructor
  · intro apart
    exact ⟨fun in_file octet holds => (apart in_file octet holds).1,
      fun in_file octet holds => (apart in_file octet holds).2⟩
  · rintro ⟨last_apart, candidate_apart⟩ in_file octet holds
    exact ⟨last_apart in_file octet holds, candidate_apart in_file octet holds⟩

namespace Inserts

/-- Each location and the candidate lie within a location of the result. -/
theorem exists_within (inserts : Inserts candidate locations result)
    (ordered : AllOrdered locations) (candidate_ordered : candidate.start ≤ candidate.stop) :
    ∀ location ∈ locations ++ [candidate], ∃ other ∈ result, location.within other = true := by
  intro location mem
  cases inserts with
  | @absorbed locations outer outer_mem inside =>
      rcases List.mem_append.1 mem with mem | mem
      · exact ⟨location, mem, within_refl location⟩
      · obtain rfl := List.mem_singleton.1 mem
        exact ⟨outer, outer_mem, inside⟩
  | @extended front last outside same_file touches =>
      have last_ordered := ordered last (by simp)
      rw [List.append_assoc, List.mem_append] at mem
      rcases mem with mem | mem
      · exact ⟨location, List.mem_append_left _ mem, within_refl location⟩
      · refine ⟨_, List.mem_append_right front (List.mem_singleton_self _), ?_⟩
        simp only [List.singleton_append, List.mem_cons, List.not_mem_nil, or_false] at mem
        rcases mem with rfl | rfl
        · exact within_iff.2 ⟨rfl, Int.le_refl _, by simp only; omega⟩
        · exact within_iff.2 ⟨same_file, by simp only; omega, Int.le_refl _⟩
  | appended outside untouched => exact ⟨location, mem, within_refl location⟩

/-- Inserting a candidate repeats no location. -/
theorem allNew (inserts : Inserts candidate locations result) (new : AllNew locations)
    (candidate_ordered : candidate.start ≤ candidate.stop) : AllNew result := by
  cases inserts with
  | absorbed mem inside => exact new
  | @extended front last outside same_file touches =>
      obtain ⟨front_new, -, last_new⟩ := List.pairwise_append.1 new
      refine List.pairwise_append.2 ⟨front_new, List.pairwise_singleton _ _, ?_⟩
      intro earlier mem joined joined_mem
      obtain rfl := List.mem_singleton.1 joined_mem
      -- A location that holds the joined one would have held the last one.
      rw [← Bool.not_eq_true, within_iff]
      rintro ⟨in_file, start_le, stop_le⟩
      have inside : last.within earlier = true :=
        within_iff.2 ⟨in_file, start_le, by simp only at stop_le; omega⟩
      rw [last_new earlier mem last (List.mem_singleton_self last)] at inside
      contradiction
  | appended outside untouched =>
      refine List.pairwise_append.2 ⟨new, List.pairwise_singleton _ _, ?_⟩
      intro earlier mem later later_mem
      obtain rfl := List.mem_singleton.1 later_mem
      exact outside earlier mem

/-- Inserting a candidate keeps locations apart if the candidate fits, and only then. -/
theorem pairwise_apart_iff (inserts : Inserts candidate locations result)
    (ordered : AllOrdered locations) (candidate_ordered : candidate.start ≤ candidate.stop) :
    result.Pairwise Apart ↔ locations.Pairwise Apart ∧ candidate.Fits locations := by
  cases inserts with
  | @absorbed locations outer mem inside => exact (and_iff_left (.inl ⟨outer, mem, inside⟩)).symm
  | @extended front last outside same_file touches =>
      have last_ordered := ordered last (by simp)
      have last_apart : last.Apart candidate := by
        rintro - octet ⟨-, lt_stop⟩ ⟨start_le, -⟩
        omega
      have fits : candidate.Fits (front ++ [last]) ↔
          ∀ location ∈ front, location.Apart candidate := by
        refine ⟨fun fits => ?_, fun apart => .inr ?_⟩
        · rcases fits with ⟨outer, mem, inside⟩ | apart
          · rw [outside outer mem] at inside
            contradiction
          · exact fun location mem => apart location (List.mem_append_left _ mem)
        · exact List.forall_mem_append.2 ⟨apart, List.forall_mem_singleton.2 last_apart⟩
      simp only [List.pairwise_append, List.pairwise_singleton, List.mem_singleton, forall_eq,
        true_and, fits, apart_joined_iff last_ordered candidate_ordered same_file touches]
      rw [and_assoc, ← forall₂_and]
  | appended outside untouched =>
      have fits : candidate.Fits locations ↔ ∀ location ∈ locations, location.Apart candidate := by
        refine or_iff_right ?_
        rintro ⟨outer, mem, inside⟩
        rw [outside outer mem] at inside
        contradiction
      simp only [List.pairwise_append, List.pairwise_singleton, List.mem_singleton, forall_eq,
        true_and, fits]

end Inserts

theorem exists_within_foldl_insert (ordered : AllOrdered locations)
    (candidates_ordered : AllOrdered candidates) :
    ∀ location ∈ locations ++ candidates,
      ∃ other ∈ candidates.foldl insert locations, location.within other = true := by
  induction candidates generalizing locations with
  | nil => simpa using fun location mem => ⟨location, mem, within_refl location⟩
  | cons candidate rest induction =>
      obtain ⟨candidate_ordered, rest_ordered⟩ := List.forall_mem_cons.1 candidates_ordered
      have inserts := inserts locations candidate
      have later := induction (inserts.allOrdered ordered candidate_ordered) rest_ordered
      intro location mem
      rw [List.append_cons] at mem
      rcases List.mem_append.1 mem with mem | mem
      · obtain ⟨middle, middle_mem, inside⟩ :=
          inserts.exists_within ordered candidate_ordered location mem
        obtain ⟨other, other_mem, middle_inside⟩ := later middle (List.mem_append_left _ middle_mem)
        exact ⟨other, other_mem, within_trans inside middle_inside⟩
      · exact later location (List.mem_append_right _ mem)

theorem allNew_foldl_insert (new : AllNew locations) (candidates_ordered : AllOrdered candidates) :
    AllNew (candidates.foldl insert locations) := by
  induction candidates generalizing locations with
  | nil => exact new
  | cons candidate rest induction =>
      obtain ⟨candidate_ordered, rest_ordered⟩ := List.forall_mem_cons.1 candidates_ordered
      exact induction ((inserts locations candidate).allNew new candidate_ordered) rest_ordered

end Location

namespace PositionMap

variable {map : PositionMap} {world : World} {interest : Option FileId} {ignored : List String}
  {suggestion : Suggestion}

theorem ShowsAt.lt_stop {index : Nat} {location : Location}
    (shows : map.ShowsAt world interest ignored suggestion index location) :
    index < suggestion.stop := by
  obtain ⟨origin, file, placed, shows, -⟩ := shows
  exact Nat.lt_of_lt_of_le shows.lt_stop (Nat.min_le_left _ _)

/-- Whether a character is shown hangs on the suggestion only by its being in the range of it. -/
theorem ShowsAt.of_lt_stop {index : Nat} {location : Location}
    (shows : map.ShowsAt world interest ignored suggestion index location) {other : Suggestion}
    (same_start : other.start = suggestion.start) (lt_stop : index < other.stop) :
    map.ShowsAt world interest ignored other index location := by
  obtain ⟨origin, file, placed, shows, rfl⟩ := shows
  have start_le := shows.start_le
  have inside := shows.lt_stop
  exact ⟨origin, file, placed,
    { shows with start_le := by omega, lt_stop := by omega }, rfl⟩

section

variable (map world interest ignored suggestion)

/-- The part of a suggestion before a place. -/
def before (suggestion : Suggestion) (place : Nat) : Suggestion := { suggestion with stop := place }

/-- A suggestion that reaches one character further has one candidate more, or none. -/
theorem locations_before_succ (place : Nat) :
    (∃ location,
      map.ShowsAt world interest ignored (before suggestion (place + 1)) place location ∧
        Location.Inserts location (map.locations world interest ignored (before suggestion place))
          (map.locations world interest ignored (before suggestion (place + 1)))) ∨
    (∀ location,
      ¬ map.ShowsAt world interest ignored (before suggestion (place + 1)) place location) ∧
      map.locations world interest ignored (before suggestion (place + 1)) =
        map.locations world interest ignored (before suggestion place) := by
  by_cases inside : suggestion.start ≤ place ∧ place < map.stream.length
  · obtain ⟨start_le, lt_length⟩ := inside
    have covered_eq : map.covered (before suggestion (place + 1)) =
        map.covered (before suggestion place) ++ [place] := by
      simp only [covered_eq_range', before]
      rw [Nat.min_eq_left lt_length, Nat.min_eq_left (Nat.le_of_lt lt_length),
        Nat.succ_sub start_le, List.range'_concat, Nat.one_mul, Nat.add_sub_cancel' start_le]
    have from_start : (before suggestion (place + 1)).start ≤ place := start_le
    have to_stop : place < min (before suggestion (place + 1)).stop map.stream.length := by
      simp only [before]
      omega
    have shows_iff (location : Location) :
        map.candidate? world interest ignored place = some location ↔
          map.ShowsAt world interest ignored (before suggestion (place + 1)) place location :=
      candidate?_eq_some_iff_showsAt from_start to_stop location
    simp only [locations, covered_eq, List.filterMap_append, List.foldl_append]
    cases found : map.candidate? world interest ignored place with
    | none =>
        right
        refine ⟨fun location shows => ?_, by simp [found]⟩
        rw [← shows_iff, found] at shows
        contradiction
    | some location =>
        left
        refine ⟨location, (shows_iff location).1 found, ?_⟩
        simp only [List.filterMap_cons, found, List.filterMap_nil, List.foldl_cons, List.foldl_nil]
        exact Location.inserts _ location
  · right
    constructor
    · rintro location ⟨origin, file, placed, shows, -⟩
      have start_le : suggestion.start ≤ place := shows.start_le
      have lt_stop := shows.lt_stop
      omega
    · have covered_eq : map.covered (before suggestion (place + 1)) =
          map.covered (before suggestion place) := by
        simp only [covered_eq_range', before]
        congr 1
        omega
      simp only [locations, covered_eq]

end

/-- A character has one range. -/
theorem ShowsAt.unique {index : Nat} {location other : Location}
    (shows : map.ShowsAt world interest ignored suggestion index location)
    (other_shows : map.ShowsAt world interest ignored suggestion index other) :
    location = other := by
  obtain ⟨origin, file, placed, shows, rfl⟩ := shows
  obtain ⟨origin', file', placed', other_shows, rfl⟩ := other_shows
  have same_origin := shows.resolves.symm.trans other_shows.resolves
  obtain rfl := Option.some.inj (Except.ok.inj same_origin)
  obtain rfl := Option.some.inj (shows.attached.symm.trans other_shows.attached)
  obtain rfl := Option.some.inj (shows.found.symm.trans other_shows.found)
  rfl

/-- What holds of all characters that a suggestion is shown at holds of those before the last
character and of that one. -/
theorem forall_showsAt_before_succ_iff {property : Nat → Location → Prop} (place : Nat) :
    (∀ index location,
      map.ShowsAt world interest ignored (before suggestion (place + 1)) index location →
        property index location) ↔
      (∀ index location,
        map.ShowsAt world interest ignored (before suggestion place) index location →
          property index location) ∧
      ∀ location,
        map.ShowsAt world interest ignored (before suggestion (place + 1)) place location →
          property place location := by
  constructor
  · intro all
    refine ⟨fun index location shows => all index location ?_, all place⟩
    have lt_place := shows.lt_stop
    exact shows.of_lt_stop rfl (Nat.lt_succ_of_lt lt_place)
  · rintro ⟨earlier, last⟩ index location shows
    have lt_succ := shows.lt_stop
    rcases Nat.lt_succ_iff_lt_or_eq.1 lt_succ with lt_place | rfl
    · exact earlier index location (shows.of_lt_stop rfl lt_place)
    · exact last location shows

/-- The locations of a suggestion are apart if each character fits the locations of the part of the
suggestion before it, and only then. -/
theorem pairwise_apart_before_iff (sized : map.IsSized) (suggestion : Suggestion) (place : Nat) :
    (map.locations world interest ignored (before suggestion place)).Pairwise Location.Apart ↔
      ∀ index location,
        map.ShowsAt world interest ignored (before suggestion place) index location →
          location.Fits (map.locations world interest ignored (before suggestion index)) := by
  induction place with
  | zero =>
      have no_locations : map.locations world interest ignored (before suggestion 0) = [] := by
        simp [locations, covered_eq_range', before]
      rw [no_locations]
      refine iff_of_true .nil fun index location shows => ?_
      exact absurd shows.lt_stop (Nat.not_lt_zero index)
  | succ place induction =>
      rw [forall_showsAt_before_succ_iff, ← induction]
      rcases map.locations_before_succ world interest ignored suggestion place with
        ⟨location, shows, inserts⟩ | ⟨none_shows, same⟩
      · rw [inserts.pairwise_apart_iff (allOrdered_locations sized) (shows.start_le_stop sized)]
        refine and_congr_right' ⟨fun fits other other_shows => ?_, fun all => all location shows⟩
        rwa [← shows.unique other_shows]
      · rw [same]
        exact (and_iff_left fun location shows => absurd shows (none_shows location)).symm

/-- The range of a character lies within a location. -/
theorem exists_within_of_showsAt (sized : map.IsSized) {index : Nat} {location : Location}
    (shows : map.ShowsAt world interest ignored suggestion index location) :
    ∃ other ∈ map.locations world interest ignored suggestion, location.within other = true := by
  have within_all : ∀ candidate ∈ [] ++ map.candidates world interest ignored suggestion,
      ∃ other ∈ map.locations world interest ignored suggestion, candidate.within other = true :=
    Location.exists_within_foldl_insert (by simp [Location.AllOrdered])
      (allOrdered_candidates sized)
  exact within_all location
    (List.mem_append_right [] ((mem_candidates_iff location).2 ⟨index, shows⟩))

/-- If each range lies within that of an earlier character or shares no octet with it, then the
locations are apart. -/
theorem pairwise_apart_of_showsAt (sized : map.IsSized)
    (nests : ∀ earlier later first second, earlier < later →
      map.ShowsAt world interest ignored suggestion earlier first →
        map.ShowsAt world interest ignored suggestion later second →
          second.within first = true ∨ first.Apart second) :
    (map.locations world interest ignored suggestion).Pairwise Location.Apart := by
  refine (pairwise_apart_before_iff sized suggestion suggestion.stop).2 ?_
  intro later second shows
  have earlier_shows {earlier : Nat} {first : Location}
      (first_shows : map.ShowsAt world interest ignored (before suggestion later) earlier first) :
      earlier < later ∧ map.ShowsAt world interest ignored suggestion earlier first := by
    have lt_later : earlier < later := first_shows.lt_stop
    have lt_stop : later < suggestion.stop := shows.lt_stop
    exact ⟨lt_later, first_shows.of_lt_stop rfl (Nat.lt_trans lt_later lt_stop)⟩
  by_cases inside : ∃ earlier first,
      map.ShowsAt world interest ignored (before suggestion later) earlier first ∧
        second.within first = true
  · obtain ⟨earlier, first, first_shows, inside⟩ := inside
    obtain ⟨location, mem, first_inside⟩ := exists_within_of_showsAt sized first_shows
    exact .inl ⟨location, mem, Location.within_trans inside first_inside⟩
  · right
    intro location mem same_file octet holds second_holds
    -- An octet of a location is one of an earlier range.
    obtain ⟨earlier, first, first_shows, in_file, first_holds⟩ :=
      (reported_locations_iff_showsAt sized location.file octet).1 ⟨location, mem, rfl, holds⟩
    obtain ⟨lt_later, whole_shows⟩ := earlier_shows first_shows
    rcases nests earlier later first second lt_later whole_shows shows with within | apart
    · exact inside ⟨earlier, first, first_shows, within⟩
    · exact apart (in_file.trans same_file) octet first_holds second_holds

theorem allNew_locations (sized : map.IsSized) :
    Location.AllNew (map.locations world interest ignored suggestion) :=
  Location.allNew_foldl_insert .nil (allOrdered_candidates sized)

end PositionMap

namespace Layout

/-- When the locations of laid-out pages repeat an octet.  No location lies within one before it.
Two of them share an octet if and only if the range of some character shares one with a location of
the part of the suggestion before it, and yet lies within none of these locations.  So no octet is
in two locations if each range lies within that of an earlier character or shares none with it, be
it that a node comes before its parts, a text is drawn out of order, or octets are drawn again. -/
theorem apart_locations_iff (options : Options) (limit : Int) (wanted : Option FileId)
    {pages : List Page} {chunk : Chunk} (mem : chunk ∈ convert options limit wanted pages)
    (world : World) (interest : Option FileId) (ignored : List String) (suggestion : Suggestion) :
    Location.AllNew (chunk.map.locations world interest ignored suggestion) ∧
    ((chunk.map.locations world interest ignored suggestion).Pairwise Location.Apart ↔
      ∀ index location, chunk.map.ShowsAt world interest ignored suggestion index location →
        location.Fits (chunk.map.locations world interest ignored
          { suggestion with stop := index })) ∧
    ((∀ earlier later first second, earlier < later →
      chunk.map.ShowsAt world interest ignored suggestion earlier first →
        chunk.map.ShowsAt world interest ignored suggestion later second →
          second.within first = true ∨ first.Apart second) →
      (chunk.map.locations world interest ignored suggestion).Pairwise Location.Apart) := by
  have sized : chunk.map.IsSized := Collector.isSized_of_mem_collect mem
  exact ⟨PositionMap.allNew_locations sized,
    PositionMap.pairwise_apart_before_iff sized suggestion suggestion.stop,
    PositionMap.pairwise_apart_of_showsAt sized⟩

/-- A file of one word. -/
def word : Source := .ofTree "main" (.inner .markup [.leaf .text ['a', 'b', 'c']])

/-- A glyph of one octet of a run, from an octet of a node of the file. -/
def glyphAt (place node offset : Int) : Glyph :=
  ⟨(place, place + 1), some ⟨some "main", node⟩, offset, 0.5⟩

/-- A page of one run of glyphs. -/
def pageOf (glyphs : List Glyph) : List Page :=
  [⟨1, ⟨200, 100, [⟨0, 10, "text", some ⟨['a', 'b', 'c'], "en", none, 11, 0.7, 16, glyphs⟩,
    none⟩]⟩⟩]

/-- The second letter of the word, the first one, and the second one again. -/
def unordered : List Page := pageOf [glyphAt 0 1 1, glyphAt 1 1 0, glyphAt 2 1 1]

theorem apart_locations_iff_unordered :
    ∃ chunk ∈ convert ⟨0.65, []⟩ 1000 none unordered,
      chunk.map.locations (.ofSource word) none [] ⟨0, 3, "", "", "", []⟩ =
        [⟨"main", 1, 2⟩, ⟨"main", 0, 1⟩] ∧
      Location.AllNew (chunk.map.locations (.ofSource word) none [] ⟨0, 3, "", "", "", []⟩) ∧
      ∀ index location,
        chunk.map.ShowsAt (.ofSource word) none [] ⟨0, 3, "", "", "", []⟩ index location →
          location.Fits (chunk.map.locations (.ofSource word) none []
            ⟨0, index, "", "", "", []⟩) := by
  have mem := List.get_mem (convert ⟨0.65, []⟩ 1000 none unordered) ⟨0, by decide +kernel⟩
  obtain ⟨new, apart_iff, -⟩ := apart_locations_iff ⟨0.65, []⟩ 1000 none mem (.ofSource word) none
    [] ⟨0, 3, "", "", "", []⟩
  have locations_eq : ((convert ⟨0.65, []⟩ 1000 none unordered).get
      ⟨0, by decide +kernel⟩).map.locations (.ofSource word) none [] ⟨0, 3, "", "", "", []⟩ =
        [⟨"main", 1, 2⟩, ⟨"main", 0, 1⟩] := by
    decide +kernel
  refine ⟨_, mem, locations_eq, new, apart_iff.1 ?_⟩
  rw [locations_eq]
  refine List.pairwise_pair.2 ?_
  rintro - octet ⟨start_le, -⟩ ⟨-, lt_stop⟩
  simp only at start_le lt_stop
  omega

/-- The first letter of the word, and a glyph of the whole file. -/
def wordThenFile : List Page := pageOf [glyphAt 0 1 0, glyphAt 1 0 0]

/-- So it is not so that no octet is in two locations. -/
theorem octet_in_two_locations :
    ¬ ∀ (options : Options) (limit : Int) (wanted : Option FileId) (pages : List Page),
        ∀ chunk ∈ convert options limit wanted pages,
          ∀ (world : World) (interest : Option FileId) (ignored : List String)
            (suggestion : Suggestion),
            (chunk.map.locations world interest ignored suggestion).Pairwise Location.Apart := by
  intro all_apart
  have mem := List.get_mem (convert ⟨0.65, []⟩ 1000 none wordThenFile) ⟨0, by decide +kernel⟩
  have apart := all_apart ⟨0.65, []⟩ 1000 none wordThenFile _ mem (.ofSource word) none []
    ⟨0, 2, "", "", "", []⟩
  have locations_eq : ((convert ⟨0.65, []⟩ 1000 none wordThenFile).get
      ⟨0, by decide +kernel⟩).map.locations (.ofSource word) none [] ⟨0, 2, "", "", "", []⟩ =
        [⟨"main", 0, 1⟩, ⟨"main", 0, 3⟩] := by
    decide +kernel
  rw [locations_eq] at apart
  exact List.pairwise_pair.1 apart rfl 0 ⟨by decide, by decide⟩ ⟨by decide, by decide⟩

end Layout
end ProseCheck
