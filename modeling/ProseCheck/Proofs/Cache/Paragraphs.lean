import Mathlib.Algebra.BigOperators.Group.Finset.Basic
import Mathlib.Data.Finset.Image
import Mathlib.Logic.Function.Basic
import ProseCheck.Cache.Key
import ProseCheck.Proofs.Cache.Queue

/-!
# Caches as queues of paragraphs

Where keys tell paragraphs apart, a cache of a family is a map of its own from paragraphs to queues:
keeping an answer puts it at the end of a queue, taking one removes it from the front, and a copy is
a map that happens to be equal.  No key without an answer is kept, and every answer counts.
-/

namespace ProseCheck

open scoped BigOperators

namespace Cache

variable {Key : Type} [DecidableEq Key]

/-- Of distinct keys, each has its own queue. -/
theorem lookup_of_mem {queues : List (Key × List Answer)}
    (distinct : (queues.map Prod.fst).Nodup) {entry : Key × List Answer} (mem : entry ∈ queues) :
    queues.lookup entry.1 = some entry.2 := by
  induction queues with
  | nil => simp at mem
  | cons first rest induction =>
      rw [List.map_cons, List.nodup_cons] at distinct
      obtain ⟨key, queue⟩ := first
      rcases List.mem_cons.1 mem with rfl | mem
      · simp
      · have entry_mem : entry.1 ∈ rest.map Prod.fst := List.mem_map_of_mem mem
        have differs : (entry.1 == key) = false := beq_false_of_ne fun same =>
          distinct.1 (same ▸ entry_mem)
        rw [List.lookup_cons, differs]
        exact induction distinct.2 mem

variable (cache : Cache Key)

theorem queue_of_mem {entry : Key × List Answer} (mem : entry ∈ cache.queues) :
    cache.queue entry.1 = entry.2 := by
  rw [queue, lookup_of_mem cache.distinct mem, Option.getD_some]

/-- A cache holds the queues that are not empty, under their keys. -/
theorem mem_queues_iff (key : Key) (answers : List Answer) :
    (key, answers) ∈ cache.queues ↔ cache.queue key = answers ∧ answers ≠ [] := by
  constructor
  · exact fun mem => ⟨queue_of_mem cache mem, cache.filled _ mem⟩
  · rintro ⟨rfl, nonempty⟩
    cases found : cache.queues.lookup key with
    | none => simp [queue, found] at nonempty
    | some answers =>
        obtain ⟨front, back, queues_eq, -⟩ := List.lookup_eq_some_iff.1 found
        rw [queue, found, Option.getD_some, queues_eq]
        exact List.mem_append_right _ List.mem_cons_self

theorem mem_keys_iff (key : Key) : key ∈ cache.queues.map Prod.fst ↔ cache.queue key ≠ [] := by
  constructor
  · intro mem
    obtain ⟨⟨key, answers⟩, entry_mem, rfl⟩ := List.mem_map.1 mem
    obtain ⟨queue_eq, nonempty⟩ := (cache.mem_queues_iff key answers).1 entry_mem
    rwa [queue_eq]
  · intro nonempty
    have entry_mem := (cache.mem_queues_iff key _).2 ⟨rfl, nonempty⟩
    exact List.mem_map_of_mem entry_mem

/-- The answers of a cache are those of its queues. -/
theorem size_eq_sum {keys : Finset Key} (covers : ∀ key, cache.queue key ≠ [] → key ∈ keys) :
    cache.size = ∑ key ∈ keys, (cache.queue key).length := by
  have kept_subset : (cache.queues.map Prod.fst).toFinset ⊆ keys := by
    intro key mem
    exact covers key ((cache.mem_keys_iff key).1 (List.mem_toFinset.1 mem))
  have others_empty : ∀ key ∈ keys, key ∉ (cache.queues.map Prod.fst).toFinset →
      (cache.queue key).length = 0 := by
    intro key _ unknown
    rw [List.mem_toFinset, mem_keys_iff, not_not] at unknown
    rw [unknown, List.length_nil]
  calc
    cache.size = (cache.queues.map fun entry => entry.2.length).sum := by
      rw [size, List.length_flatMap]
    _ = ((cache.queues.map Prod.fst).map fun key => (cache.queue key).length).sum := by
      rw [List.map_map]
      refine congrArg List.sum (List.map_congr_left fun entry mem => ?_)
      rw [Function.comp_apply, queue_of_mem cache mem]
    _ = ∑ key ∈ (cache.queues.map Prod.fst).toFinset, (cache.queue key).length :=
      (List.sum_toFinset _ cache.distinct).symm
    _ = ∑ key ∈ keys, (cache.queue key).length := Finset.sum_subset kept_subset others_empty

end Cache

namespace Paragraph

/-- A member of the payload, as it is written. -/
def member (name : String) (value : Text) : Text :=
  Json.Writer.string Json.Writer.isPrintableAscii name.toList ++
    ':' :: Json.Writer.string Json.Writer.isPrintableAscii value

/-- The digest of a paragraph is taken of its language and its text. -/
theorem canonical_payload (text : Text) (language : String) :
    Json.canonical (payload text language) =
      '{' :: (Json.Writer.join [','] [member "language" language.toList,
        member "stage" "paragraph".toList, member "text" text] ++ ['}']) := by
  simp [Json.canonical, payload, Json.Writer.canonical, Json.Writer.canonicalMembers, member,
    List.mergeSort, List.MergeSort.Internal.splitInTwo, Json.text]

end Paragraph

namespace CacheFamily

theorem cache_single {Key : Type} [DecidableEq Key] (start name : String) :
    (single start : CacheFamily Key).cache name = .empty := by
  rw [single, cache, List.lookup_cons]
  split <;> rfl

namespace Operation

variable {Item Key : Type}

/-- The operation on the keys of what it is about. -/
def map (keyOf : Item → Key) : Operation Item → Operation Key
  | .insert name item answer => .insert name (keyOf item) answer
  | .take name item => .take name (keyOf item)
  | .copy source target => .copy source target
  | .clear name => .clear name

/-- What an operation is about. -/
def item? : Operation Item → Option Item
  | .insert _ item _ | .take _ item => some item
  | .copy _ _ | .clear _ => none

/-- Name of the cache that an operation changes. -/
def target : Operation Item → String
  | .insert name _ _ | .take name _ | .copy _ name | .clear name => name

/-- All that operations are about. -/
def items [DecidableEq Item] (operations : List (Operation Item)) : Finset Item :=
  (operations.filterMap item?).toFinset

theorem mem_items [DecidableEq Item] {operations : List (Operation Item)}
    {operation : Operation Item} (mem : operation ∈ operations) {item : Item}
    (about : item ∈ operation.item?) : item ∈ items operations :=
  List.mem_toFinset.2 (List.mem_filterMap.2 ⟨operation, mem, about⟩)

end Operation

/-- Queues of answers by names and by what the answers are about. -/
abbrev Queues (Item : Type) := String → Item → List Answer

namespace Queues

variable {Item : Type} [DecidableEq Item]

/-- Does one operation; taking gives the front of a queue, or nothing if it is empty. -/
def step (queues : Queues Item) : Operation Item → Option Answer × Queues Item
  | .insert name item answer =>
    (none, Function.update queues name
      (Function.update (queues name) item (queues name item ++ [answer])))
  | .take name item =>
    ((queues name item).head?, Function.update queues name
      (Function.update (queues name) item (queues name item).tail))
  | .copy source target => (none, Function.update queues target (queues source))
  | .clear name => (none, Function.update queues name fun _ => [])

/-- Does operations in order. -/
def run (queues : Queues Item) (operations : List (Operation Item)) : Queues Item :=
  operations.foldl (fun queues operation => (queues.step operation).2) queues

/-- What operations give, in order. -/
def replies (queues : Queues Item) : List (Operation Item) → List (Option Answer)
  | [] => []
  | operation :: rest => (queues.step operation).1 :: replies (queues.step operation).2 rest

end Queues

section

variable {Item Key : Type} [DecidableEq Key] {keyOf : Item → Key} {items : Finset Item}

/-- A cache keeps the queues of some items under their keys, and nothing else. -/
structure Keeps (keyOf : Item → Key) (items : Finset Item) (queues : Item → List Answer)
    (cache : Cache Key) : Prop where
  queue_eq : ∀ item ∈ items, cache.queue (keyOf item) = queues item
  exists_item : ∀ key, cache.queue key ≠ [] → ∃ item ∈ items, keyOf item = key

namespace Keeps

variable {queues : Item → List Answer} {cache : Cache Key}

theorem empty : Keeps keyOf items (fun _ => []) (.empty : Cache Key) where
  queue_eq _ _ := rfl
  exists_item _ nonempty := absurd rfl nonempty

/-- What a cache holds is what it keeps of the items. -/
theorem mem_queues_iff (keeps : Keeps keyOf items queues cache) (entry : Key × List Answer) :
    entry ∈ cache.queues ↔
      ∃ item ∈ items, entry = (keyOf item, queues item) ∧ queues item ≠ [] := by
  obtain ⟨key, answers⟩ := entry
  rw [Cache.mem_queues_iff]
  constructor
  · rintro ⟨rfl, nonempty⟩
    obtain ⟨item, mem, rfl⟩ := keeps.exists_item key nonempty
    rw [keeps.queue_eq item mem] at nonempty ⊢
    exact ⟨item, mem, rfl, nonempty⟩
  · rintro ⟨item, mem, entry_eq, nonempty⟩
    obtain ⟨rfl, rfl⟩ := Prod.mk.inj entry_eq
    exact ⟨keeps.queue_eq item mem, nonempty⟩

theorem size_eq [DecidableEq Item] (keeps : Keeps keyOf items queues cache)
    (distinct : Set.InjOn keyOf items) :
    cache.size = ∑ item ∈ items, (queues item).length := by
  have covers : ∀ key, cache.queue key ≠ [] → key ∈ items.image keyOf := by
    intro key nonempty
    exact Finset.mem_image.2 (keeps.exists_item key nonempty)
  rw [cache.size_eq_sum covers, Finset.sum_image distinct]
  exact Finset.sum_congr rfl fun item mem => by rw [keeps.queue_eq item mem]

variable [DecidableEq Item] {item : Item}

theorem insert (keeps : Keeps keyOf items queues cache) (distinct : Set.InjOn keyOf items)
    (mem : item ∈ items) (answer : Answer) :
    Keeps keyOf items (Function.update queues item (queues item ++ [answer]))
      (cache.insert (keyOf item) answer) := by
  constructor
  · intro other other_mem
    have same_iff : keyOf other = keyOf item ↔ other = item := distinct.eq_iff other_mem mem
    simp only [Cache.queue_insert, same_iff, keeps.queue_eq other other_mem,
      Function.update_apply]
    split
    · rename_i same
      rw [same]
    · rfl
  · intro key nonempty
    rw [Cache.queue_insert] at nonempty
    split at nonempty
    · rename_i same
      exact ⟨item, mem, same.symm⟩
    · exact keeps.exists_item key nonempty

theorem drop (keeps : Keeps keyOf items queues cache) (distinct : Set.InjOn keyOf items)
    (mem : item ∈ items) :
    Keeps keyOf items (Function.update queues item (queues item).tail)
      (cache.drop (keyOf item)) := by
  constructor
  · intro other other_mem
    have same_iff : keyOf other = keyOf item ↔ other = item := distinct.eq_iff other_mem mem
    simp only [Cache.queue_drop, same_iff, keeps.queue_eq other other_mem, Function.update_apply]
    split
    · rename_i same
      rw [same]
    · rfl
  · intro key nonempty
    apply keeps.exists_item key
    rw [Cache.queue_drop] at nonempty
    split at nonempty
    · exact fun empty => nonempty (by rw [empty, List.tail_nil])
    · exact nonempty

end Keeps

variable {queues : Queues Item} {family : CacheFamily Key}

theorem keeps_put (keeps : ∀ name, Keeps keyOf items (queues name) (family.cache name))
    (name : String) {changed : Item → List Answer} {cache : Cache Key}
    (keeps_changed : Keeps keyOf items changed cache) (other : String) :
    Keeps keyOf items (Function.update queues name changed other)
      ((family.put name cache).cache other) := by
  rw [cache_put, Function.update_apply]
  split
  · exact keeps_changed
  · exact keeps other

variable [DecidableEq Item]

/-- An operation gives what it gives on the queues, and leaves caches that keep these. -/
theorem keeps_step (distinct : Set.InjOn keyOf items)
    (keeps : ∀ name, Keeps keyOf items (queues name) (family.cache name))
    {operation : Operation Item} (known : ∀ item ∈ operation.item?, item ∈ items) :
    (family.step (operation.map keyOf)).1 = (queues.step operation).1 ∧
      ∀ name, Keeps keyOf items ((queues.step operation).2 name)
        ((family.step (operation.map keyOf)).2.cache name) := by
  cases operation with
  | insert name item answer =>
      exact ⟨rfl, keeps_put keeps name ((keeps name).insert distinct (known item rfl) answer)⟩
  | take name item =>
      refine ⟨?_, keeps_put keeps name ((keeps name).drop distinct (known item rfl))⟩
      exact congrArg List.head? ((keeps name).queue_eq item (known item rfl))
  | copy source target => exact ⟨rfl, keeps_put keeps target (keeps source)⟩
  | clear name => exact ⟨rfl, keeps_put keeps name .empty⟩

/-- So do operations one after the other. -/
theorem keeps_run (distinct : Set.InjOn keyOf items)
    (keeps : ∀ name, Keeps keyOf items (queues name) (family.cache name))
    {operations : List (Operation Item)}
    (known : ∀ operation ∈ operations, ∀ item ∈ operation.item?, item ∈ items) :
    family.replies (operations.map (.map keyOf)) = queues.replies operations ∧
      ∀ name, Keeps keyOf items (queues.run operations name)
        ((family.run (operations.map (.map keyOf))).cache name) := by
  induction operations generalizing family queues with
  | nil => exact ⟨rfl, keeps⟩
  | cons operation rest induction =>
      obtain ⟨same, keeps_next⟩ := keeps_step distinct keeps (known operation List.mem_cons_self)
      obtain ⟨same_rest, keeps_rest⟩ := induction keeps_next fun other mem =>
        known other (List.mem_cons_of_mem _ mem)
      refine ⟨?_, keeps_rest⟩
      rw [List.map_cons, replies, Queues.replies, same, same_rest]

end

/-- An operation leaves all caches as they are but the one that it changes. -/
theorem cache_step_of_ne {Key : Type} [DecidableEq Key] (family : CacheFamily Key)
    (operation : Operation Key) {name : String} (differs : name ≠ operation.target) :
    (family.step operation).2.cache name = family.cache name := by
  cases operation <;> exact (cache_put ..).trans (if_neg differs)

/-- The caches of a family are queues of paragraphs where keys tell the paragraphs apart that the
operations are about: operations give what they give on the queues, a cache holds the queues that
are not empty and counts their answers, and an operation changes no cache but its own. -/
theorem caches_are_queues {Key : Type} [DecidableEq Key] (keyOf : Text → String → Key)
    (start : String) (operations : List (Operation (Text × String)))
    (distinct : Set.InjOn (Function.uncurry keyOf) (Operation.items operations)) :
    let keyed := operations.map (.map (Function.uncurry keyOf))
    let queues := Queues.run (fun _ _ => []) operations
    (single start).replies keyed = Queues.replies (fun _ _ => []) operations ∧
      ∀ name,
        (∀ entry, entry ∈ (((single start).run keyed).cache name).queues ↔
          ∃ paragraph ∈ Operation.items operations,
            entry = (keyOf paragraph.1 paragraph.2, queues name paragraph) ∧
              queues name paragraph ≠ []) ∧
        (((single start).run keyed).cache name).size =
          ∑ paragraph ∈ Operation.items operations, (queues name paragraph).length ∧
        ∀ operation : Operation Key, name ≠ operation.target →
          (((single start).run keyed).step operation).2.cache name =
            ((single start).run keyed).cache name := by
  intro keyed queues
  have keeps_start : ∀ name, Keeps (Function.uncurry keyOf) (Operation.items operations)
      (fun _ => []) ((single start : CacheFamily Key).cache name) := by
    intro name
    rw [cache_single]
    exact .empty
  obtain ⟨replies_eq, keeps⟩ := keeps_run distinct keeps_start fun operation mem item about =>
    Operation.mem_items mem about
  exact ⟨replies_eq, fun name => ⟨(keeps name).mem_queues_iff, (keeps name).size_eq distinct,
    fun operation differs => cache_step_of_ne _ operation differs⟩⟩

/-- Two languages of one paragraph, which a copy takes back one by one. -/
def copied : List (Operation (Text × String)) :=
  [.insert "0" ("Same.".toList, "en-US") [⟨0, 4, "first", "", "", []⟩],
    .insert "0" ("Same.".toList, "en-US") [⟨0, 4, "second", "", "", []⟩],
    .insert "0" ("Same.".toList, "de-DE") [], .copy "0" "1", .take "1" ("Same.".toList, "de-DE"),
    .take "1" ("Same.".toList, "de-DE"), .take "0" ("Same.".toList, "en-US"), .clear "0",
    .take "1" ("Same.".toList, "en-US")]

theorem key_ne_of_languages :
    Paragraph.key "Same.".toList "en-US" ≠ Paragraph.key "Same.".toList "de-DE" := by
  rw [Paragraph.key, Paragraph.key, Digest.ofJson, Digest.ofJson, Paragraph.canonical_payload,
    Paragraph.canonical_payload]
  decide +kernel

theorem caches_are_queues_copied :
    Set.InjOn (Function.uncurry Paragraph.key) (Operation.items copied) ∧
      (single "0").replies (copied.map (.map (Function.uncurry Paragraph.key))) =
        [none, none, none, none, some [], none, some [⟨0, 4, "first", "", "", []⟩], none,
          some [⟨0, 4, "first", "", "", []⟩]] ∧
      (((single "0").run (copied.map (.map (Function.uncurry Paragraph.key)))).cache "1").size =
        1 := by
  have distinct : Set.InjOn (Function.uncurry Paragraph.key) (Operation.items copied) := by
    have items_eq : Operation.items copied =
        {("Same.".toList, "en-US"), ("Same.".toList, "de-DE")} := by
      decide
    rw [items_eq, Finset.coe_pair, Set.injOn_pair]
    exact fun same => absurd same key_ne_of_languages
  obtain ⟨replies_eq, caches⟩ := caches_are_queues Paragraph.key "0" copied distinct
  refine ⟨distinct, replies_eq.trans ?_, (caches "1").2.1.trans ?_⟩
  · decide
  · decide

end CacheFamily
end ProseCheck
