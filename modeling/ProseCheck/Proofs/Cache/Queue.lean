import ProseCheck.Cache.Basic

/-!
# Queues of a cache

Keeping an answer puts it at the end of the queue of its key, and taking one removes the first;
the queues of other keys stay as they are.  So keys that are taken in the order in which their
answers were kept get these answers back.

What is done to the cache of one name in a family shows in no other.  So a copy answers as its
source would, and the source keeps all that is taken from the copy.
-/

namespace ProseCheck
namespace Cache

variable {Key : Type} [DecidableEq Key]

@[simp]
theorem queue_empty (key : Key) : (empty : Cache Key).queue key = [] := rfl

theorem lookup_pushInto (key other : Key) (answer : Answer) (queues : List (Key × List Answer)) :
    ((pushInto key answer queues).lookup other).getD [] =
      if other = key then (queues.lookup other).getD [] ++ [answer]
      else (queues.lookup other).getD [] := by
  fun_induction pushInto key answer queues with
  | case1 =>
      by_cases same : other = key
      · simp [same]
      · have differs : (other == key) = false := beq_false_of_ne same
        simp [List.lookup_cons, same, differs]
  | case2 queue rest =>
      by_cases same : other = key
      · simp [same]
      · have differs : (other == key) = false := beq_false_of_ne same
        simp [List.lookup_cons, same, differs]
  | case3 first queue rest differs induction =>
      simp only [List.lookup_cons]
      by_cases same : other = first
      · subst same
        simp [differs]
      · have other_differs : (other == first) = false := beq_false_of_ne same
        simp only [other_differs, induction]

theorem lookup_dropFrom (key other : Key) {queues : List (Key × List Answer)}
    (distinct : (queues.map Prod.fst).Nodup) :
    ((dropFrom key queues).lookup other).getD [] =
      if other = key then ((queues.lookup other).getD []).tail
      else (queues.lookup other).getD [] := by
  fun_induction dropFrom key queues with
  | case1 => simp
  | case2 queue rest last =>
      rw [List.map_cons, List.nodup_cons] at distinct
      by_cases same : other = key
      · -- Keys are distinct, so nothing is kept under this one any more.
        subst same
        have forgotten : rest.lookup other = none := by
          refine List.lookup_eq_none_iff.2 fun entry mem => bne_iff_ne.2 fun same => ?_
          have key_mem : entry.1 ∈ rest.map Prod.fst := List.mem_map_of_mem mem
          exact distinct.1 (same ▸ key_mem)
        simp [forgotten, last]
      · have differs : (other == key) = false := beq_false_of_ne same
        simp [List.lookup_cons, same, differs]
  | case3 queue rest more =>
      by_cases same : other = key
      · simp [same]
      · have differs : (other == key) = false := beq_false_of_ne same
        simp [List.lookup_cons, same, differs]
  | case4 first queue rest differs induction =>
      rw [List.map_cons, List.nodup_cons] at distinct
      simp only [List.lookup_cons]
      by_cases same : other = first
      · subst same
        simp [differs]
      · have other_differs : (other == first) = false := beq_false_of_ne same
        simp only [other_differs, induction distinct.2]

/-- Keeping an answer puts it at the end of the queue of its key. -/
theorem queue_insert (cache : Cache Key) (key other : Key) (answer : Answer) :
    (cache.insert key answer).queue other =
      if other = key then cache.queue other ++ [answer] else cache.queue other :=
  lookup_pushInto key other answer cache.queues

/-- Taking an answer removes the first of the queue of its key. -/
theorem queue_drop (cache : Cache Key) (key other : Key) :
    (cache.drop key).queue other =
      if other = key then (cache.queue other).tail else cache.queue other :=
  lookup_dropFrom key other cache.distinct

theorem length_pushInto (key : Key) (answer : Answer) (queues : List (Key × List Answer)) :
    ((pushInto key answer queues).flatMap Prod.snd).length =
      (queues.flatMap Prod.snd).length + 1 := by
  fun_induction pushInto key answer queues with
  | case1 => rfl
  | case2 queue rest =>
      simp only [List.flatMap_cons, List.length_append, List.length_singleton]
      omega
  | case3 first queue rest differs induction =>
      simp only [List.flatMap_cons, List.length_append, induction]
      omega

/-- Keeping an answer adds one to the number of answers. -/
theorem size_insert (cache : Cache Key) (key : Key) (answer : Answer) :
    (cache.insert key answer).size = cache.size + 1 :=
  length_pushInto key answer cache.queues

/-- The cache of some answers, kept in order under their keys. -/
def ofAnswers (answers : List (Key × Answer)) : Cache Key :=
  answers.foldl (fun cache (key, answer) => cache.insert key answer) empty

/-- Answers of a key, in order. -/
def answersOf (key : Key) (answers : List (Key × Answer)) : List Answer :=
  (answers.filter fun (other, _) => other = key).map Prod.snd

theorem answersOf_cons (key other : Key) (answer : Answer) (rest : List (Key × Answer)) :
    answersOf key ((other, answer) :: rest) =
      if key = other then answer :: answersOf key rest else answersOf key rest := by
  by_cases same : other = key
  · simp [answersOf, same]
  · have : key ≠ other := fun equal => same equal.symm
    simp [answersOf, same, this]

theorem queue_foldl_insert (cache : Cache Key) (answers : List (Key × Answer)) (key : Key) :
    (answers.foldl (fun cache (key, answer) => cache.insert key answer) cache).queue key =
      cache.queue key ++ answersOf key answers := by
  induction answers generalizing cache with
  | nil => simp [answersOf]
  | cons first rest induction =>
      obtain ⟨other, answer⟩ := first
      rw [List.foldl_cons, induction, queue_insert, answersOf_cons]
      split <;> simp

/-- The queue of a key holds its answers in the order in which they were kept. -/
theorem queue_ofAnswers (answers : List (Key × Answer)) (key : Key) :
    (ofAnswers answers).queue key = answersOf key answers := by
  rw [ofAnswers, queue_foldl_insert, queue_empty, List.nil_append]

theorem size_foldl_insert (cache : Cache Key) (answers : List (Key × Answer)) :
    (answers.foldl (fun cache (key, answer) => cache.insert key answer) cache).size =
      cache.size + answers.length := by
  induction answers generalizing cache with
  | nil => rfl
  | cons first rest induction =>
      rw [List.foldl_cons, induction, size_insert, List.length_cons]
      omega

/-- Every answer is kept. -/
theorem size_ofAnswers (answers : List (Key × Answer)) :
    (ofAnswers answers).size = answers.length := by
  rw [ofAnswers, size_foldl_insert]
  exact Nat.zero_add _

/-- Keys that are taken in the order in which their answers were kept get these back. -/
theorem takeAll_of_queue_eq {cache : Cache Key} {answers : List (Key × Answer)}
    (queue_eq : ∀ key, cache.queue key = answersOf key answers) :
    (cache.takeAll (answers.map Prod.fst)).1 = answers.map fun (_, answer) => some answer := by
  induction answers generalizing cache with
  | nil => rfl
  | cons first rest induction =>
      obtain ⟨key, answer⟩ := first
      have head_eq : cache.queue key = answer :: answersOf key rest := by
        rw [queue_eq, answersOf_cons, if_pos rfl]
      have rest_eq : ∀ other, (cache.take key).2.queue other = answersOf other rest := by
        intro other
        rw [take, queue_drop, queue_eq, answersOf_cons]
        split <;> rfl
      rw [List.map_cons, takeAll, induction rest_eq, List.map_cons, take, head_eq, List.head?_cons]

/-- What is taken for a key was kept under it. -/
theorem mem_queue_of_take {cache : Cache Key} {key : Key} {answer : Answer}
    (taken : (cache.take key).1 = some answer) : answer ∈ cache.queue key :=
  List.mem_of_mem_head? taken

theorem mem_queue_of_mem_drop {cache : Cache Key} {key other : Key} {answer : Answer}
    (mem : answer ∈ (cache.drop key).queue other) : answer ∈ cache.queue other := by
  rw [queue_drop] at mem
  split at mem
  · exact List.mem_of_mem_tail mem
  · exact mem

/-- So is all that is taken for keys one after the other. -/
theorem mem_queue_of_takeAll {cache : Cache Key} {keys : List Key} {index : Nat} {answer : Answer}
    (taken : (cache.takeAll keys).1[index]? = some (some answer)) :
    ∃ key, keys[index]? = some key ∧ answer ∈ cache.queue key := by
  induction keys generalizing cache index with
  | nil => simp [takeAll] at taken
  | cons key rest induction =>
      rw [takeAll] at taken
      cases index with
      | zero =>
          rw [List.getElem?_cons_zero, Option.some.injEq] at taken
          exact ⟨key, rfl, mem_queue_of_take taken⟩
      | succ index =>
          rw [List.getElem?_cons_succ] at taken
          obtain ⟨other, other_eq, mem⟩ := induction taken
          exact ⟨other, other_eq, mem_queue_of_mem_drop mem⟩

/-- Of the answers of a key, the next one is taken each time that the key comes up. -/
theorem getElem?_takeAll (cache : Cache Key) (keys : List Key) (index : Nat) :
    (cache.takeAll keys).1[index]? =
      keys[index]?.map fun key => (cache.queue key)[(keys.take index).count key]? := by
  induction keys generalizing cache index with
  | nil => rfl
  | cons first rest induction =>
      cases index with
      | zero =>
          rw [takeAll, take, List.getElem?_cons_zero, List.getElem?_cons_zero, Option.map_some,
            List.take_zero, List.count_nil, List.head?_eq_getElem?]
      | succ index =>
          rw [takeAll, List.getElem?_cons_succ, List.getElem?_cons_succ, induction]
          congr 1
          funext key
          rw [take, queue_drop, List.take_succ_cons, List.count_cons]
          by_cases same : key = first
          · subst same
            simp
          · have differs : (first == key) = false := beq_false_of_ne fun equal => same equal.symm
            simp [same, differs]

@[simp]
theorem length_takeAll (cache : Cache Key) (keys : List Key) :
    (cache.takeAll keys).1.length = keys.length := by
  induction keys generalizing cache with
  | nil => rfl
  | cons key rest induction => rw [takeAll, List.length_cons, induction, List.length_cons]

end Cache

namespace CacheFamily

variable {Key : Type}

/-- Putting a cache under a name changes the cache of this name alone. -/
theorem cache_put (family : CacheFamily Key) (name other : String) (cache : Cache Key) :
    (family.put name cache).cache other = if other = name then cache else family.cache other := by
  rw [CacheFamily.cache, put, Association.lookup_put]
  split <;> rfl

variable [DecidableEq Key]

/-- What operations give, in order. -/
def replies (family : CacheFamily Key) : List (Operation Key) → List (Option Answer)
  | [] => []
  | operation :: rest => (family.step operation).1 :: (family.step operation).2.replies rest

theorem run_cons (family : CacheFamily Key) (operation : Operation Key)
    (rest : List (Operation Key)) :
    family.run (operation :: rest) = (family.step operation).2.run rest :=
  rfl

/-- Taking from the cache of a name gives what this cache keeps. -/
theorem replies_takes (family : CacheFamily Key) (name : String) (keys : List Key) :
    family.replies (keys.map (.take name)) = ((family.cache name).takeAll keys).1 := by
  induction keys generalizing family with
  | nil => rfl
  | cons key rest induction =>
      rw [List.map_cons, replies, step, induction, cache_put, if_pos rfl, Cache.takeAll]

/-- Taking from the cache of a name changes no other. -/
theorem cache_run_takes (family : CacheFamily Key) {name other : String} (differs : other ≠ name)
    (keys : List Key) : (family.run (keys.map (.take name))).cache other = family.cache other := by
  induction keys generalizing family with
  | nil => rfl
  | cons key rest induction =>
      rw [List.map_cons, run_cons, step, induction, cache_put, if_neg differs]

/-- Answers that are taken from a copy are those of its source, which stays as it was. -/
theorem takes_of_copy (family : CacheFamily Key) {source target : String}
    (differs : source ≠ target) (keys : List Key) :
    family.replies (.copy source target :: keys.map (.take target)) =
        none :: ((family.cache source).takeAll keys).1 ∧
      (family.run (.copy source target :: keys.map (.take target))).cache source =
        family.cache source := by
  constructor
  · rw [replies, step, replies_takes, cache_put, if_pos rfl]
  · rw [run_cons, step, cache_run_takes _ differs, cache_put, if_neg differs]

end CacheFamily
end ProseCheck
