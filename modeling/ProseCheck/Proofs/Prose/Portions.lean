import ProseCheck.Proofs.Prose.Normal

/-!
# Portions of plain prose

The runs of plain prose are cut into portions, each one up to the first paragraph break that finds
more characters than the limit.  Every run stands in one portion, bringing runs to their normal form
moves no cut, and behind a portion that is full the cuts do not depend on what came before.
-/

namespace ProseCheck
namespace Prose

section Portions

variable {Item Other : Type} (full : List Item → Bool)

/-- Portions of the items still to come, when the open one holds some items: a portion ends once
it is full, and the last one when no item is left. -/
def portionsFrom (taken : List Item) : List Item → List (List Item)
  | [] => if taken.isEmpty then [] else [taken]
  | item :: rest =>
    if full (taken ++ [item]) then (taken ++ [item]) :: portionsFrom [] rest
    else portionsFrom (taken ++ [item]) rest

/-- Every item stands in one portion, in order. -/
@[simp]
theorem flatten_portionsFrom (taken items : List Item) :
    (portionsFrom full taken items).flatten = taken ++ items := by
  fun_induction portionsFrom full taken items with
  | case1 taken empty => simp [List.isEmpty_iff.1 empty]
  | case2 taken nonempty => simp
  | case3 taken item rest is_full induction => simp [induction]
  | case4 taken item rest goes_on induction => simp [induction]

theorem ne_nil_of_mem_portionsFrom {taken items portion : List Item}
    (mem : portion ∈ portionsFrom full taken items) : portion ≠ [] := by
  fun_induction portionsFrom full taken items with
  | case1 taken empty => simp at mem
  | case2 taken nonempty =>
      obtain rfl := List.mem_singleton.1 mem
      simpa using nonempty
  | case3 taken item rest is_full induction =>
      rcases List.mem_cons.1 mem with rfl | mem
      · simp
      · exact induction mem
  | case4 taken item rest goes_on induction => exact induction mem

/-- Items rewritten one by one are cut at the same places if that fills no other portions. -/
theorem portionsFrom_map (rewrite : Item → Other) {fullOther : List Other → Bool}
    (same : ∀ portion, fullOther (portion.map rewrite) = full portion) (taken items : List Item) :
    portionsFrom fullOther (taken.map rewrite) (items.map rewrite) =
      (portionsFrom full taken items).map (List.map rewrite) := by
  induction items generalizing taken with
  | nil =>
      by_cases empty : taken = [] <;> simp [portionsFrom, empty]
  | cons item rest induction =>
      have grown : taken.map rewrite ++ [rewrite item] = (taken ++ [item]).map rewrite := by simp
      rw [List.map_cons, portionsFrom, portionsFrom, grown, same, induction]
      split
      · rw [List.map_cons, ← induction []]
        rfl
      · rfl

/-- Behind items whose last portion is full, portions begin afresh. -/
theorem portionsFrom_append {taken left : List Item} (right : List Item)
    (goes_on : taken ≠ [] → full taken = false)
    (closed : ∀ last ∈ (portionsFrom full taken left).getLast?, full last = true) :
    portionsFrom full taken (left ++ right) =
      portionsFrom full taken left ++ portionsFrom full [] right := by
  fun_induction portionsFrom full taken left with
  | case1 taken empty =>
      obtain rfl := List.isEmpty_iff.1 empty
      rfl
  | case2 taken nonempty =>
      have is_full : full taken = true := closed taken (by simp)
      rw [goes_on (by simpa using nonempty)] at is_full
      contradiction
  | case3 taken item rest is_full induction =>
      rw [List.cons_append, portionsFrom, if_pos is_full, List.cons_append]
      rw [induction (by simp)]
      intro last last_eq
      refine closed last ?_
      rw [List.getLast?_cons, Option.mem_def.1 last_eq]
      rfl
  | case4 taken item rest open_still induction =>
      rw [List.cons_append, portionsFrom, if_neg open_still]
      exact induction (fun _ => by simpa using open_still) closed

end Portions

/-- Whether a portion ends: its last run is a paragraph break and finds the chunk too long. -/
def isFull (limit : Nat) (portion : List Text) : Bool :=
  (portion.getLast?.any fun run => kindOf run = .parbreak) &&
    limit < (portion.flatMap normalRun).length

theorem isFull_iff {limit : Nat} {portion : List Text} {run : Text} :
    isFull limit (portion ++ [run]) = true ↔
      kindOf run = .parbreak ∧ limit < ((portion ++ [run]).flatMap normalRun).length := by
  simp [isFull]

/-- Runs of a text with the numbers of their nodes; the root has the number zero. -/
def numbered (text : Text) : List (Text × Nat) := (runs text).zipIdx 1

/-- Portions of a text. -/
def portions (limit : Nat) (text : Text) : List (List (Text × Nat)) :=
  portionsFrom (fun portion => isFull limit (portion.map Prod.fst)) [] (numbered text)

theorem flatten_portions (limit : Nat) (text : Text) :
    (portions limit text).flatten = numbered text :=
  flatten_portionsFrom _ [] (numbered text)

/-- Normal forms fill a portion as much as the runs themselves. -/
theorem isFull_map_normalRun (limit : Nat) (portion : List Text) :
    isFull limit (portion.map normalRun) = isFull limit portion := by
  simp [isFull, List.flatMap_map, Option.any_map]

/-- Numbers do not decide where portions end. -/
theorem map_fst_portions (limit : Nat) (text : Text) :
    (portions limit text).map (List.map Prod.fst) = portionsFrom (isFull limit) [] (runs text) := by
  have cut : portionsFrom (isFull limit) [] ((numbered text).map Prod.fst) =
      (portions limit text).map (List.map Prod.fst) :=
    portionsFrom_map _ Prod.fst (fun _ => rfl) [] (numbered text)
  rw [← cut, numbered, List.zipIdx_map_fst]

end Prose
end ProseCheck
