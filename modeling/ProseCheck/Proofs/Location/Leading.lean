import ProseCheck.Diagnostic
import ProseCheck.Proofs.Location.Canonical

/-!
# Where locations begin

The first location of a suggestion begins with the first character of the suggestion that can be
located, whatever the other ones are joined to.  The chunks of a conversion hold their characters in
the order of the document, and so the first locations of suggestions come in the order of the
suggestions.
-/

namespace ProseCheck
namespace Location

/-- Another candidate does not change where the first location starts. -/
theorem start_head?_insert {locations : List Location} (nonempty : locations ≠ [])
    (candidate : Location) :
    (insert locations candidate).head?.map start = locations.head?.map start := by
  have inserts := inserts locations candidate
  generalize insert locations candidate = result at inserts ⊢
  cases inserts with
  | absorbed mem inside => rfl
  | @extended front last outside same_file touches => cases front <;> rfl
  | appended outside untouched =>
      obtain ⟨first, rest, rfl⟩ := List.exists_cons_of_ne_nil nonempty
      rfl

theorem start_head?_foldl_insert {locations : List Location} (nonempty : locations ≠ [])
    (candidates : List Location) :
    (candidates.foldl insert locations).head?.map start = locations.head?.map start := by
  induction candidates generalizing locations with
  | nil => rfl
  | cons candidate rest induction =>
      rw [List.foldl_cons, induction (insert_ne_nil locations candidate),
        start_head?_insert nonempty]

end Location

namespace PositionMap

/-- A character of the stream with its range of the document. -/
def Reaches (map : PositionMap) (scope : Scope) (index : Nat) (location : Location) : Prop :=
  index < map.stream.length ∧
    map.candidate? scope.world scope.interest scope.ignored index = some location

variable {map : PositionMap} {scope : Scope} {suggestion : Suggestion}

/-- The first location of a suggestion starts where its first character with a range stands. -/
theorem exists_leading {first : Location} {rest : List Location}
    (located : map.locations scope.world scope.interest scope.ignored suggestion = first :: rest) :
    ∃ index location, map.Reaches scope index location ∧ suggestion.start ≤ index ∧
      location.start = first.start ∧
        ∀ other another, map.Reaches scope other another → suggestion.start ≤ other →
          index ≤ other := by
  cases candidates_eq : map.candidates scope.world scope.interest scope.ignored suggestion with
  | nil =>
      rw [locations, ← candidates, candidates_eq] at located
      contradiction
  | cons candidate more =>
      have start_eq : candidate.start = first.start := by
        have head_eq := Location.start_head?_foldl_insert (List.cons_ne_nil candidate []) more
        rw [locations, ← candidates, candidates_eq] at located
        have folded : more.foldl Location.insert [candidate] = first :: rest := located
        rw [folded] at head_eq
        exact (Option.some.inj head_eq).symm
      obtain ⟨before, index, after, covered_eq, none_before, found, -⟩ :=
        List.filterMap_eq_cons_iff.1 candidates_eq
      have index_mem : index ∈ map.covered suggestion := by simp [covered_eq]
      obtain ⟨start_le, lt_stop⟩ := (map.mem_covered_iff suggestion index).1 index_mem
      refine ⟨index, candidate, ⟨by omega, found⟩, start_le, start_eq, ?_⟩
      rintro other another ⟨inside, other_found⟩ other_ge
      by_contra earlier
      -- A character before this one would have been the first.
      have other_mem : other ∈ map.covered suggestion :=
        (map.mem_covered_iff suggestion other).2 ⟨other_ge, by omega⟩
      have ordered := map.pairwise_covered suggestion
      rw [covered_eq] at other_mem ordered
      rcases List.mem_append.1 other_mem with mem | mem
      · rw [none_before other mem] at other_found
        contradiction
      · rcases List.mem_cons.1 mem with rfl | mem
        · omega
        · have := List.rel_of_pairwise_cons (List.pairwise_append.1 ordered).2.1 mem
          omega

end PositionMap

/-- Chunks whose characters stand in the order of the document. -/
structure InOrder (scope : Scope) (chunks : List Chunk) : Prop where
  within : ∀ chunk ∈ chunks, ∀ index other first second, chunk.map.Reaches scope index first →
    chunk.map.Reaches scope other second → index ≤ other → first.start ≤ second.start
  across : chunks.Pairwise fun earlier later => ∀ index other first second,
    earlier.map.Reaches scope index first → later.map.Reaches scope other second →
      first.start ≤ second.start

theorem InOrder.nil (scope : Scope) : InOrder scope [] := ⟨by simp, .nil⟩

theorem InOrder.of_prefix {scope : Scope} {chunks part : List Chunk}
    (ordered : InOrder scope chunks) (first : part <+: chunks) : InOrder scope part where
  within chunk mem := ordered.within chunk (first.subset mem)
  across := ordered.across.sublist first.sublist

theorem Location.Follows.start_le {earlier later : Location} (follows : later.Follows earlier)
    (ordered : earlier.start ≤ earlier.stop) : earlier.start ≤ later.start := by
  rcases follows with rfl | stop_le
  · exact Int.le_refl _
  · omega

namespace Markup

variable {id : FileId} {tree : Node} {scope : Scope} {rules : Rules} {limit : Int}
  {interest : Option FileId} {language : String}

/-- The characters of the stretches of a conversion stand one after the other. -/
theorem pairwise_stretches (shaped : tree.isShaped = true) :
    (Collector.stretches limit language (events rules .prose (Source.ofTree id tree).root)).Pairwise
      fun earlier later => ∀ mark ∈ earlier.marks, ∀ other ∈ later.marks, ∀ first second,
        (Source.ofTree id tree).StandsAt mark first →
          (Source.ofTree id tree).StandsAt other second → second.Follows first := by
  have follows := (shown_events rules id tree).pairwise_follows (Node.isShaped_numbered id shaped 0)
  rw [← Collector.flatMap_pieces_stretches limit language, List.flatMap_assoc,
    List.pairwise_flatMap] at follows
  exact follows.2

/-- The chunks of a conversion hold their characters in the order of the document. -/
theorem inOrder_convert (shaped : tree.isShaped = true)
    (source_mem : Source.ofTree id tree ∈ scope.world.sources) :
    InOrder scope (convert rules limit interest language (Source.ofTree id tree).root) := by
  rw [convert, Collector.collect_eq_stretches]
  have start_le {stretch : Stretch}
      (mem : stretch ∈ Collector.stretches limit language
        (events rules .prose (Source.ofTree id tree).root)) {mark : Mark}
      (mark_mem : mark ∈ stretch.marks) {location : Location}
      (stands : (Source.ofTree id tree).StandsAt mark location) :
      location.start ≤ location.stop := by
    obtain ⟨placed, -, confines⟩ :=
      (shown_of_mem_stretches mem).exists_confines (Node.isShaped_numbered id shaped 0) mark_mem
        stands
    exact confines.start_le_stop
  constructor
  case within =>
    intro chunk mem index other first second first_reaches second_reaches index_le
    obtain ⟨stretch, kept_mem, rfl⟩ := List.mem_map.1 mem
    have stretch_mem := (List.mem_filter.1 kept_mem).1
    have shown := shown_of_mem_stretches stretch_mem
    obtain ⟨inside, found⟩ := first_reaches
    obtain ⟨other_inside, other_found⟩ := second_reaches
    rcases Nat.eq_or_lt_of_le index_le with rfl | index_lt
    · rw [found] at other_found
      exact Int.le_of_eq (congrArg Location.start (Option.some.inj other_found))
    · obtain ⟨mark, mark_eq, first_at⟩ := standsAt_of_candidate? source_mem shown inside found
      obtain ⟨another, another_eq, second_at⟩ :=
        standsAt_of_candidate? source_mem shown other_inside other_found
      have first_le := start_le stretch_mem (List.mem_of_getElem? mark_eq) first_at
      obtain ⟨mark_lt, rfl⟩ := List.getElem?_eq_some_iff.1 mark_eq
      obtain ⟨another_lt, rfl⟩ := List.getElem?_eq_some_iff.1 another_eq
      have ordered := shown.pairwise_follows (Node.isShaped_numbered id shaped 0)
      have follows := List.pairwise_iff_getElem.1 ordered index other mark_lt another_lt index_lt
        first second first_at second_at
      exact follows.start_le first_le
  case across =>
    refine List.pairwise_map.2 ?_
    refine ((pairwise_stretches shaped).sublist List.filter_sublist).imp_of_mem ?_
    intro earlier later earlier_mem later_mem ordered index other first second first_reaches
      second_reaches
    have earlier_mem := (List.mem_filter.1 earlier_mem).1
    have later_mem := (List.mem_filter.1 later_mem).1
    obtain ⟨inside, found⟩ := first_reaches
    obtain ⟨other_inside, other_found⟩ := second_reaches
    obtain ⟨mark, mark_eq, first_at⟩ :=
      standsAt_of_candidate? source_mem (shown_of_mem_stretches earlier_mem) inside found
    obtain ⟨another, another_eq, second_at⟩ :=
      standsAt_of_candidate? source_mem (shown_of_mem_stretches later_mem) other_inside other_found
    have mark_mem := List.mem_of_getElem? mark_eq
    have follows := ordered mark mark_mem another (List.mem_of_getElem? another_eq) first second
      first_at second_at
    exact follows.start_le (start_le earlier_mem mark_mem first_at)

end Markup
end ProseCheck
