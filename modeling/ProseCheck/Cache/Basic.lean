import ProseCheck.Association
import ProseCheck.Suggestion

/-!
# Caches

A cache keeps answers of a server under keys.  The answers of one key form a queue: the first
one kept is the first one taken, and taking removes it.  So a document that holds a paragraph
twice keeps two answers, and both are there for the next check.  A key whose queue runs empty is
forgotten.

Caches may go by names.  A copy of a cache is a cache of its own: what is done to one of the two
does not show in the other.
-/

namespace ProseCheck

/-- Queues of answers by keys. -/
structure Cache (Key : Type) where
  /-- Keys with their queues. -/
  queues : List (Key × List Answer)
  distinct : (queues.map Prod.fst).Nodup
  filled : ∀ entry ∈ queues, entry.2 ≠ []

namespace Cache

variable {Key : Type} [DecidableEq Key]

/-- The cache of nothing. -/
def empty : Cache Key := ⟨[], .nil, by simp⟩

/-- Queues with an answer at the end of the queue of a key. -/
def pushInto (key : Key) (answer : Answer) : List (Key × List Answer) → List (Key × List Answer)
  | [] => [(key, [answer])]
  | (other, queue) :: rest =>
    if other = key then (other, queue ++ [answer]) :: rest
    else (other, queue) :: pushInto key answer rest

/-- Queues without the first answer of a key, and without the key if that was its last one. -/
def dropFrom (key : Key) : List (Key × List Answer) → List (Key × List Answer)
  | [] => []
  | (other, queue) :: rest =>
    if other = key then
      if queue.tail = [] then rest else (other, queue.tail) :: rest
    else (other, queue) :: dropFrom key rest

theorem mem_keys_pushInto (key other : Key) (answer : Answer)
    (queues : List (Key × List Answer)) :
    other ∈ (pushInto key answer queues).map Prod.fst ↔
      other = key ∨ other ∈ queues.map Prod.fst := by
  fun_induction pushInto key answer queues with
  | case1 => simp
  | case2 queue rest => simp
  | case3 first queue rest differs ih =>
    simp only [List.map_cons, List.mem_cons, ih]
    exact or_left_comm

theorem distinct_pushInto (key : Key) (answer : Answer) {queues : List (Key × List Answer)}
    (distinct : (queues.map Prod.fst).Nodup) :
    ((pushInto key answer queues).map Prod.fst).Nodup := by
  fun_induction pushInto key answer queues with
  | case1 => simp
  | case2 queue rest => simpa using distinct
  | case3 first queue rest differs ih =>
    rw [List.map_cons, List.nodup_cons] at distinct ⊢
    refine ⟨fun mem => ?_, ih distinct.2⟩
    exact ((mem_keys_pushInto ..).1 mem).elim differs distinct.1

theorem filled_pushInto (key : Key) (answer : Answer) {queues : List (Key × List Answer)}
    (filled : ∀ entry ∈ queues, entry.2 ≠ []) :
    ∀ entry ∈ pushInto key answer queues, entry.2 ≠ [] := by
  fun_induction pushInto key answer queues with
  | case1 => simp
  | case2 queue rest => exact List.forall_mem_cons.2 ⟨by simp, (List.forall_mem_cons.1 filled).2⟩
  | case3 first queue rest differs ih =>
    obtain ⟨head, tail⟩ := List.forall_mem_cons.1 filled
    exact List.forall_mem_cons.2 ⟨head, ih tail⟩

theorem keys_dropFrom_sublist (key : Key) (queues : List (Key × List Answer)) :
    ((dropFrom key queues).map Prod.fst).Sublist (queues.map Prod.fst) := by
  fun_induction dropFrom key queues <;> simp_all

theorem filled_dropFrom (key : Key) {queues : List (Key × List Answer)}
    (filled : ∀ entry ∈ queues, entry.2 ≠ []) :
    ∀ entry ∈ dropFrom key queues, entry.2 ≠ [] := by
  fun_induction dropFrom key queues with
  | case1 => simp
  | case2 queue rest last => exact (List.forall_mem_cons.1 filled).2
  | case3 queue rest more =>
    exact List.forall_mem_cons.2 ⟨more, (List.forall_mem_cons.1 filled).2⟩
  | case4 first queue rest differs ih =>
    obtain ⟨head, tail⟩ := List.forall_mem_cons.1 filled
    exact List.forall_mem_cons.2 ⟨head, ih tail⟩

/-- Keeps an answer under a key. -/
def insert (cache : Cache Key) (key : Key) (answer : Answer) : Cache Key :=
  ⟨pushInto key answer cache.queues, distinct_pushInto key answer cache.distinct,
    filled_pushInto key answer cache.filled⟩

/-- The cache without the first answer of a key. -/
def drop (cache : Cache Key) (key : Key) : Cache Key :=
  ⟨dropFrom key cache.queues, cache.distinct.sublist (keys_dropFrom_sublist key cache.queues),
    filled_dropFrom key cache.filled⟩

/-- Answers kept under a key, the oldest first. -/
def queue (cache : Cache Key) (key : Key) : List Answer := (cache.queues.lookup key).getD []

/-- Takes the oldest answer that is kept under a key. -/
def take (cache : Cache Key) (key : Key) : Option Answer × Cache Key :=
  ((cache.queue key).head?, cache.drop key)

/-- Number of answers kept. -/
def size (cache : Cache Key) : Nat := (cache.queues.flatMap Prod.snd).length

/-- Takes the answers of keys one after the other. -/
def takeAll (cache : Cache Key) : List Key → List (Option Answer) × Cache Key
  | [] => ([], cache)
  | key :: rest =>
    ((cache.take key).1 :: ((cache.take key).2.takeAll rest).1, ((cache.take key).2.takeAll rest).2)

end Cache

/-! ## Families of caches -/

/-- Named caches in the order in which the names came up. -/
structure CacheFamily (Key : Type) where
  /-- Names with their caches. -/
  caches : List (String × Cache Key)

/-- What can be done to a family. -/
inductive CacheFamily.Operation (Key : Type) where
  | insert (name : String) (key : Key) (answer : Answer)
  | take (name : String) (key : Key)
  | copy (source target : String)
  | clear (name : String)

namespace CacheFamily

variable {Key : Type} [DecidableEq Key]

/-- The family of one empty cache. -/
def single (name : String) : CacheFamily Key := ⟨[(name, .empty)]⟩

/-- The cache of a name; a name that is not in use has the empty one. -/
def cache (family : CacheFamily Key) (name : String) : Cache Key :=
  (family.caches.lookup name).getD .empty

/-- The family with another cache under a name. -/
def put (family : CacheFamily Key) (name : String) (cache : Cache Key) : CacheFamily Key :=
  ⟨Association.put name cache family.caches⟩

/-- Does one operation; taking gives the answer taken. -/
def step (family : CacheFamily Key) : Operation Key → Option Answer × CacheFamily Key
  | .insert name key answer => (none, family.put name ((family.cache name).insert key answer))
  | .take name key =>
    (((family.cache name).take key).1, family.put name ((family.cache name).take key).2)
  | .copy source target => (none, family.put target (family.cache source))
  | .clear name => (none, family.put name .empty)

/-- Does operations in order. -/
def run (family : CacheFamily Key) (operations : List (Operation Key)) : CacheFamily Key :=
  operations.foldl (fun family operation => (family.step operation).2) family

/-- Names with the numbers of answers that their caches keep. -/
def sizes (family : CacheFamily Key) : List (String × Nat) :=
  family.caches.map fun (name, cache) => (name, cache.size)

end CacheFamily
end ProseCheck
