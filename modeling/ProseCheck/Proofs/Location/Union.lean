import ProseCheck.Proofs.Chunk.Sized
import ProseCheck.Proofs.Location.Canonical

/-!
# What locations hold

The characters of a stream may come from anywhere in the document, in any order and from the same
octets again and again, so their ranges may repeat, overlap or lie in several files.  Whatever they
are, the locations of a suggestion hold the octets of the characters that it can be shown at and no
others.
-/

namespace ProseCheck
namespace Location

/-- Whether an octet of a file lies in one of some locations. -/
def Reported (locations : List Location) (file : FileId) (octet : Int) : Prop :=
  ∃ location ∈ locations, location.file = file ∧ location.Holds octet

/-- Locations of which none stops before it starts. -/
def AllOrdered (locations : List Location) : Prop :=
  ∀ location ∈ locations, location.start ≤ location.stop

variable {locations candidates result : List Location} {candidate last : Location} {file : FileId}
  {octet : Int}

@[simp]
theorem reported_append (locations more : List Location) (file : FileId) (octet : Int) :
    Reported (locations ++ more) file octet ↔
      Reported locations file octet ∨ Reported more file octet := by
  simp [Reported, or_and_right, exists_or]

@[simp]
theorem reported_singleton (location : Location) (file : FileId) (octet : Int) :
    Reported [location] file octet ↔ location.file = file ∧ location.Holds octet := by
  simp [Reported]

/-- A location and a candidate that starts where it stops hold what both of them hold. -/
theorem holds_joined_iff (last_ordered : last.start ≤ last.stop)
    (ordered : candidate.start ≤ candidate.stop) (touches : last.stop = candidate.start)
    (octet : Int) :
    Holds ⟨last.file, last.start, candidate.stop⟩ octet ↔
      last.Holds octet ∨ candidate.Holds octet := by
  simp only [Holds]
  omega

namespace Inserts

theorem allOrdered (inserts : Inserts candidate locations result) (ordered : AllOrdered locations)
    (candidate_ordered : candidate.start ≤ candidate.stop) : AllOrdered result := by
  cases inserts with
  | absorbed mem inside => exact ordered
  | @extended front last outside same_file touches =>
      obtain ⟨front_ordered, last_ordered⟩ := List.forall_mem_append.1 ordered
      have last_ordered := last_ordered last (List.mem_singleton_self last)
      refine List.forall_mem_append.2 ⟨front_ordered, List.forall_mem_singleton.2 ?_⟩
      simp only
      omega
  | appended outside untouched =>
      exact List.forall_mem_append.2 ⟨ordered, List.forall_mem_singleton.2 candidate_ordered⟩

/-- Inserting a candidate adds the octets of it. -/
theorem reported_iff (inserts : Inserts candidate locations result) (ordered : AllOrdered locations)
    (candidate_ordered : candidate.start ≤ candidate.stop) :
    Reported result file octet ↔ Reported (locations ++ [candidate]) file octet := by
  cases inserts with
  | @absorbed locations location mem inside =>
      rw [reported_append, reported_singleton]
      refine ⟨.inl, fun reported => reported.elim id ?_⟩
      rintro ⟨file_eq, holds⟩
      exact ⟨location, mem, (within_iff.1 inside).1.trans file_eq, holds.of_within inside⟩
  | @extended front last outside same_file touches =>
      have last_ordered := ordered last (by simp)
      have joined := holds_joined_iff last_ordered candidate_ordered touches octet
      simp only [reported_append, reported_singleton, joined]
      rw [← same_file]
      tauto
  | appended outside untouched => rfl

end Inserts

/-- Inserting candidates one after the other adds the octets of all of them. -/
theorem reported_foldl_insert_iff (ordered : AllOrdered locations)
    (candidates_ordered : AllOrdered candidates) :
    Reported (candidates.foldl insert locations) file octet ↔
      Reported (locations ++ candidates) file octet := by
  induction candidates generalizing locations with
  | nil => simp
  | cons candidate rest induction =>
      obtain ⟨candidate_ordered, rest_ordered⟩ := List.forall_mem_cons.1 candidates_ordered
      have inserts := inserts locations candidate
      rw [List.foldl_cons, induction (inserts.allOrdered ordered candidate_ordered) rest_ordered,
        reported_append, inserts.reported_iff ordered candidate_ordered, ← reported_append,
        List.append_assoc, List.singleton_append]

theorem allOrdered_foldl_insert (ordered : AllOrdered locations)
    (candidates_ordered : AllOrdered candidates) :
    AllOrdered (candidates.foldl insert locations) := by
  induction candidates generalizing locations with
  | nil => exact ordered
  | cons candidate rest induction =>
      obtain ⟨candidate_ordered, rest_ordered⟩ := List.forall_mem_cons.1 candidates_ordered
      exact induction ((inserts locations candidate).allOrdered ordered candidate_ordered)
        rest_ordered

theorem foldl_insert_eq_nil_iff (candidates : List Location) :
    candidates.foldl insert [] = [] ↔ candidates = [] := by
  rcases List.eq_nil_or_concat candidates with rfl | ⟨front, last, rfl⟩
  · simp
  · simp [insert_ne_nil]

end Location

/-- A node that a world finds does not stop before it starts. -/
theorem World.start_le_stop_of_find? {world : World} {span : Span} {placed : Placed}
    (found : world.find? span = some placed) : placed.start ≤ placed.stop := by
  unfold find? at found
  split at found
  · contradiction
  · obtain ⟨source, -, found⟩ := Option.bind_eq_some_iff.1 found
    obtain ⟨-, -, -, -, stop_eq⟩ := Source.standsIn_of_find? found
    omega

/-- Whether an octet is one of an origin in a node: one of its own in a text, any octet of the node
elsewhere. -/
def Placed.Owns (placed : Placed) (origin : Origin) (octet : Int) : Prop :=
  if placed.node.kind = .text then
    placed.start + origin.start ≤ octet ∧ octet < placed.start + origin.stop
  else placed.start ≤ octet ∧ octet < placed.stop

namespace PositionMap

/-- A character that a suggestion can be shown at.  It is a character of the stream in the range of
the suggestion; it comes from a node of the document; and that is in the file of interest, and in no
call of an ignored name. -/
structure Shows (map : PositionMap) (world : World) (interest : Option FileId)
    (ignored : List String) (suggestion : Suggestion) (index : Nat) (origin : Origin)
    (file : FileId) (placed : Placed) : Prop where
  start_le : suggestion.start ≤ index
  lt_stop : index < min suggestion.stop map.stream.length
  resolves : map.resolve index = .ok (some origin)
  attached : origin.span.file = some file
  passes : ∀ wanted, interest = some wanted → wanted = file
  found : world.find? origin.span = some placed
  unignored : ∀ node ∈ placed.ancestors, ∀ name ∈ ignored, node.callee? ≠ some name

variable {map : PositionMap} {world : World} {interest : Option FileId} {ignored : List String}
  {suggestion : Suggestion} {index : Nat} {origin : Origin} {file : FileId} {placed : Placed}

namespace Shows

/-- With fewer names ignored a character is still shown. -/
theorem of_subset (shows : map.Shows world interest ignored suggestion index origin file placed)
    {fewer : List String} (subset : fewer ⊆ ignored) :
    map.Shows world interest fewer suggestion index origin file placed :=
  { shows with unignored := fun node mem name name_mem =>
      shows.unignored node mem name (subset name_mem) }

end Shows

/-- A character that a suggestion can be shown at, with its range of the document. -/
def ShowsAt (map : PositionMap) (world : World) (interest : Option FileId) (ignored : List String)
    (suggestion : Suggestion) (index : Nat) (location : Location) : Prop :=
  ∃ origin file placed, map.Shows world interest ignored suggestion index origin file placed ∧
    placed.locate file origin = location

theorem candidate?_eq_some_iff_showsAt (start_le : suggestion.start ≤ index)
    (lt_stop : index < min suggestion.stop map.stream.length) (location : Location) :
    map.candidate? world interest ignored index = some location ↔
      map.ShowsAt world interest ignored suggestion index location := by
  rw [candidate?_eq_some_iff]
  have resolve_eq : map.resolve index = .ok (map.origin? index) := map.resolve_isOk (by omega)
  constructor
  · rintro ⟨origin, file, placed, origin_eq, attached, passes, found, shown, located⟩
    exact ⟨origin, file, placed, ⟨start_le, lt_stop, by rw [resolve_eq, origin_eq], attached,
      passes, found, (placed.isIgnored_eq_false_iff ignored).1 shown⟩, located⟩
  · rintro ⟨origin, file, placed, shows, located⟩
    have origin_eq := shows.resolves
    rw [resolve_eq] at origin_eq
    exact ⟨origin, file, placed, Except.ok.inj origin_eq, shows.attached, shows.passes, shows.found,
      (placed.isIgnored_eq_false_iff ignored).2 shows.unignored, located⟩

/-- The candidates of a suggestion are the ranges of the characters that it can be shown at. -/
theorem mem_candidates_iff (location : Location) :
    location ∈ map.candidates world interest ignored suggestion ↔
      ∃ index, map.ShowsAt world interest ignored suggestion index location := by
  rw [candidates, List.mem_filterMap]
  constructor
  · rintro ⟨index, mem, found⟩
    obtain ⟨start_le, lt_stop⟩ := (map.mem_covered_iff suggestion index).1 mem
    exact ⟨index, (candidate?_eq_some_iff_showsAt start_le lt_stop location).1 found⟩
  · rintro ⟨index, origin, file, placed, shows, located⟩
    refine ⟨index, (map.mem_covered_iff suggestion index).2 ⟨shows.start_le, shows.lt_stop⟩, ?_⟩
    exact (candidate?_eq_some_iff_showsAt shows.start_le shows.lt_stop location).2
      ⟨origin, file, placed, shows, located⟩

/-- The range of a character does not stop before it starts. -/
theorem ShowsAt.start_le_stop (sized : map.IsSized) {location : Location}
    (shows : map.ShowsAt world interest ignored suggestion index location) :
    location.start ≤ location.stop := by
  obtain ⟨origin, file, placed, shows, rfl⟩ := shows
  have origin_ordered := sized.start_le_stop shows.resolves
  have placed_ordered := World.start_le_stop_of_find? shows.found
  unfold Placed.locate
  split
  · simp only
    omega
  · simp only
    omega

theorem allOrdered_candidates (sized : map.IsSized) :
    Location.AllOrdered (map.candidates world interest ignored suggestion) := by
  intro location mem
  obtain ⟨index, shows⟩ := (mem_candidates_iff location).1 mem
  exact shows.start_le_stop sized

/-- A location does not stop before it starts. -/
theorem allOrdered_locations (sized : map.IsSized) :
    Location.AllOrdered (map.locations world interest ignored suggestion) :=
  Location.allOrdered_foldl_insert (by simp [Location.AllOrdered]) (allOrdered_candidates sized)

/-- The locations of a suggestion hold what the ranges of its characters hold. -/
theorem reported_locations_iff_showsAt (sized : map.IsSized) (file : FileId) (octet : Int) :
    Location.Reported (map.locations world interest ignored suggestion) file octet ↔
      ∃ index location, map.ShowsAt world interest ignored suggestion index location ∧
        location.file = file ∧ location.Holds octet := by
  have reported : Location.Reported (map.locations world interest ignored suggestion) file octet ↔
      Location.Reported ([] ++ map.candidates world interest ignored suggestion) file octet :=
    Location.reported_foldl_insert_iff (by simp [Location.AllOrdered])
      (allOrdered_candidates sized)
  rw [reported, List.nil_append, Location.Reported]
  constructor
  · rintro ⟨location, mem, in_file, holds⟩
    obtain ⟨index, shows⟩ := (mem_candidates_iff location).1 mem
    exact ⟨index, location, shows, in_file, holds⟩
  · rintro ⟨index, location, shows, in_file, holds⟩
    exact ⟨location, (mem_candidates_iff location).2 ⟨index, shows⟩, in_file, holds⟩

/-- The locations of a suggestion hold the octets of the characters that it can be shown at. -/
theorem reported_locations_iff (sized : map.IsSized) (file : FileId) (octet : Int) :
    Location.Reported (map.locations world interest ignored suggestion) file octet ↔
      ∃ index origin placed,
        map.Shows world interest ignored suggestion index origin file placed ∧
          placed.Owns origin octet := by
  rw [reported_locations_iff_showsAt sized]
  constructor
  · rintro ⟨index, location, ⟨origin, other, placed, shows, rfl⟩, in_file, holds⟩
    rw [Placed.file_locate] at in_file
    subst in_file
    exact ⟨index, origin, placed, shows, (placed.holds_locate_iff _ _ _).1 holds⟩
  · rintro ⟨index, origin, placed, shows, owns⟩
    exact ⟨index, _, ⟨origin, file, placed, shows, rfl⟩, placed.file_locate file origin,
      (placed.holds_locate_iff _ _ _).2 owns⟩

theorem locations_eq_nil_iff :
    map.locations world interest ignored suggestion = [] ↔
      ¬ ∃ index origin file placed,
        map.Shows world interest ignored suggestion index origin file placed := by
  have empty : map.locations world interest ignored suggestion = [] ↔
      map.candidates world interest ignored suggestion = [] :=
    Location.foldl_insert_eq_nil_iff _
  rw [empty, List.eq_nil_iff_forall_not_mem]
  constructor
  · rintro none_mem ⟨index, origin, file, placed, shows⟩
    exact none_mem _ ((mem_candidates_iff _).2 ⟨index, origin, file, placed, shows, rfl⟩)
  · intro none_shows location mem
    obtain ⟨index, origin, file, placed, shows, -⟩ := (mem_candidates_iff location).1 mem
    exact none_shows ⟨index, origin, file, placed, shows⟩

/-- Locations hold exactly the octets of the characters that a suggestion can be shown at, whatever
the runs of the position map are.  Each character that the suggestion is about can be looked up; an
octet of a file lies in a location if and only if it is one of a character that is shown, that is
one of its own where its node is a text and one of the node elsewhere; there is no location if and
only if no character is shown; and the more names are ignored, the fewer octets lie in locations. -/
theorem octets_of_locations (map : PositionMap) (sized : map.IsSized) (world : World)
    (interest : Option FileId) (suggestion : Suggestion) :
    (∀ index ∈ map.covered suggestion, ∃ origin, map.resolve index = .ok origin) ∧
    (∀ ignored,
      (∀ file octet,
        Location.Reported (map.locations world interest ignored suggestion) file octet ↔
          ∃ index origin placed,
            map.Shows world interest ignored suggestion index origin file placed ∧
              placed.Owns origin octet) ∧
      (map.locations world interest ignored suggestion = [] ↔
        ¬ ∃ index origin file placed,
          map.Shows world interest ignored suggestion index origin file placed)) ∧
    ∀ ignored more, ignored ⊆ more → ∀ file octet,
      Location.Reported (map.locations world interest more suggestion) file octet →
        Location.Reported (map.locations world interest ignored suggestion) file octet := by
  refine ⟨?_, fun ignored => ⟨reported_locations_iff sized, locations_eq_nil_iff⟩, ?_⟩
  · intro index mem
    obtain ⟨-, lt_stop⟩ := (map.mem_covered_iff suggestion index).1 mem
    exact ⟨_, map.resolve_isOk (by omega)⟩
  · intro ignored more subset file octet reported
    obtain ⟨index, origin, placed, shows, owns⟩ :=
      (reported_locations_iff sized file octet).1 reported
    exact (reported_locations_iff sized file octet).2
      ⟨index, origin, placed, shows.of_subset subset, owns⟩

/-- A file of a word and a call. -/
def wordAndCall : Source :=
  .ofTree "main" (.inner .markup [.leaf .text ['n', 'é'],
    .inner .funcCall [.leaf .ident ['l', 'i', 'n', 'k']]])

/-- A stream of the name of the call, and of the word from its end to its start. -/
def scattered : PositionMap where
  stream := ['l', 'e', 'n']
  entries :=
    [⟨0, 1, some ⟨some "main", 3⟩, 0, true, 1⟩, ⟨1, 1, some ⟨some "main", 1⟩, 1, false, 2⟩,
      ⟨2, 1, some ⟨some "main", 1⟩, 0, true, 1⟩]

theorem octets_of_locations_scattered :
    scattered.IsSized ∧
      scattered.locations (.ofSource wordAndCall) none ["link"] ⟨0, 9, "", "", "", []⟩ =
        [⟨"main", 1, 3⟩, ⟨"main", 0, 1⟩] ∧
      (∀ octet : Int, 0 ≤ octet ∧ octet < 3 ↔ ∃ index origin placed,
        scattered.Shows (.ofSource wordAndCall) none ["link"] ⟨0, 9, "", "", "", []⟩ index origin
          "main" placed ∧ placed.Owns origin octet) ∧
      [] ⊆ ["link"] ∧
        Location.Reported (scattered.locations (.ofSource wordAndCall) none []
          ⟨0, 9, "", "", "", []⟩) "main" 2 := by
  have sized : scattered.IsSized := by
    unfold IsSized
    decide
  have locations_eq : scattered.locations (.ofSource wordAndCall) none ["link"]
      ⟨0, 9, "", "", "", []⟩ = [⟨"main", 1, 3⟩, ⟨"main", 0, 1⟩] := by
    decide +kernel
  obtain ⟨-, located, fewer⟩ :=
    octets_of_locations scattered sized (.ofSource wordAndCall) none ⟨0, 9, "", "", "", []⟩
  obtain ⟨reported, -⟩ := located ["link"]
  have named := List.nil_subset ["link"]
  rw [locations_eq] at reported
  refine ⟨sized, locations_eq, fun octet => ?_, named, fewer [] ["link"] named "main" 2 ?_⟩
  · rw [← reported "main" octet]
    simp only [Location.Reported, List.mem_cons, List.not_mem_nil, or_false, exists_eq_or_imp,
      exists_eq_left, Location.Holds, true_and]
    omega
  · rw [locations_eq]
    exact ⟨⟨"main", 1, 3⟩, List.mem_cons_self, rfl, by decide, by decide⟩

end PositionMap
end ProseCheck
