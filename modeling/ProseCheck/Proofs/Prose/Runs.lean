import Mathlib.Data.List.DropRight
import Mathlib.Data.List.SplitBy
import ProseCheck.Prose

/-!
# Runs of plain prose

The runs of a text are the only way to write it as parts that are not empty, each of blanks alone or
of other characters alone, no two neighbours of one sort.  So cutting a text where the sort of its
characters changes cuts its runs apart, and parts that alternate are the runs of what they make up.
-/

namespace ProseCheck
namespace Prose

/-- The maximal runs of blanks and of other characters, in order. -/
def runs : Text → List Text
  | [] => []
  | char :: rest =>
    match runs rest with
    | [] => [[char]]
    | [] :: more => [char] :: more
    | (next :: run) :: more =>
      if Text.isBlank char = Text.isBlank next then (char :: next :: run) :: more
      else [char] :: (next :: run) :: more

/-- Kind of a run. -/
def kindOf (run : Text) : Kind :=
  if !Text.isBlankText run then .text
  else if run.count '\n' ≥ 2 then .parbreak
  else .space

/-- The leaf of a run. -/
def leafOf (run : Text) : Node := .leaf (kindOf run) run

@[simp]
theorem flatten_runs (text : Text) : (runs text).flatten = text := by
  fun_induction runs text <;> simp_all

/-- A part of a text whose characters are of one sort. -/
structure IsRun (run : Text) : Prop where
  nonempty : run ≠ []
  pure : ∀ char ∈ run, Text.isBlank char = Text.isBlankText run

/-- Parts of one sort each, next to parts of the other sort. -/
structure Alternates (parts : List Text) : Prop where
  isRun : ∀ run ∈ parts, IsRun run
  changes : parts.IsChain fun left right => Text.isBlankText left ≠ Text.isBlankText right

theorem isRun_singleton (char : Char) : IsRun [char] :=
  ⟨List.cons_ne_nil _ _, by simp [Text.isBlankText]⟩

theorem isBlankText_cons_of_eq {char next : Char} {run : Text}
    (same : Text.isBlank char = Text.isBlank next) :
    Text.isBlankText (char :: next :: run) = Text.isBlankText (next :: run) := by
  simp [Text.isBlankText, same]

theorem isRun_cons_iff {char next : Char} {run : Text} :
    IsRun (char :: next :: run) ↔
      Text.isBlank char = Text.isBlank next ∧ IsRun (next :: run) := by
  constructor
  · rintro ⟨-, pure⟩
    have same : Text.isBlank char = Text.isBlank next := by
      rw [pure char (by simp), pure next (by simp)]
    refine ⟨same, List.cons_ne_nil _ _, fun other mem => ?_⟩
    rw [← isBlankText_cons_of_eq same]
    exact pure other (List.mem_cons_of_mem _ mem)
  · rintro ⟨same, -, pure⟩
    refine ⟨List.cons_ne_nil _ _, fun other mem => ?_⟩
    rw [isBlankText_cons_of_eq same]
    rcases List.mem_cons.1 mem with rfl | mem
    · rw [same]
      exact pure next (by simp)
    · exact pure other mem

/-- The sort of a run is that of its first character. -/
theorem IsRun.isBlankText_cons {char : Char} {run : Text} (is_run : IsRun (char :: run)) :
    Text.isBlankText (char :: run) = Text.isBlank char :=
  (is_run.pure char (by simp)).symm

/-- A part of a run is a run of the same sort. -/
theorem IsRun.of_subset {run part : Text} (is_run : IsRun run) (nonempty : part ≠ [])
    (subset : part ⊆ run) : IsRun part ∧ Text.isBlankText part = Text.isBlankText run := by
  have pure : ∀ char ∈ part, Text.isBlank char = Text.isBlankText run :=
    fun char mem => is_run.pure char (subset mem)
  have same : Text.isBlankText part = Text.isBlankText run := by
    cases sort : Text.isBlankText run with
    | true =>
        rw [Text.isBlankText, List.all_eq_true]
        intro char mem
        rw [pure char mem, sort]
    | false =>
        obtain ⟨char, mem⟩ := List.exists_mem_of_ne_nil _ nonempty
        rw [Text.isBlankText, List.all_eq_false]
        exact ⟨char, mem, by rw [pure char mem, sort]; decide⟩
  exact ⟨⟨nonempty, fun char mem => by rw [pure char mem, same]⟩, same⟩

namespace Alternates

variable {left right parts : List Text}

theorem nil : Alternates [] := ⟨by simp, List.isChain_nil⟩

theorem singleton {run : Text} (is_run : IsRun run) : Alternates [run] :=
  ⟨by simpa using is_run, List.isChain_singleton _⟩

theorem tail {run : Text} (alternates : Alternates (run :: parts)) : Alternates parts :=
  ⟨fun other mem => alternates.isRun other (List.mem_cons_of_mem _ mem), alternates.changes.tail⟩

theorem append (left_alternates : Alternates left) (right_alternates : Alternates right)
    (changes : ∀ last ∈ left.getLast?, ∀ next ∈ right.head?,
      Text.isBlankText last ≠ Text.isBlankText next) :
    Alternates (left ++ right) := by
  refine ⟨fun run mem => ?_, List.isChain_append.2
    ⟨left_alternates.changes, right_alternates.changes, changes⟩⟩
  rcases List.mem_append.1 mem with mem | mem
  · exact left_alternates.isRun run mem
  · exact right_alternates.isRun run mem

theorem of_append (alternates : Alternates (left ++ right)) :
    Alternates left ∧ Alternates right := by
  obtain ⟨left_changes, right_changes, -⟩ := List.isChain_append.1 alternates.changes
  exact ⟨⟨fun run mem => alternates.isRun run (List.mem_append_left _ mem), left_changes⟩,
    ⟨fun run mem => alternates.isRun run (List.mem_append_right _ mem), right_changes⟩⟩

/-- A run may be replaced by a part of it. -/
theorem part {run piece : Text} (alternates : Alternates (left ++ run :: right))
    (nonempty : piece ≠ []) (subset : piece ⊆ run) : Alternates (left ++ piece :: right) := by
  obtain ⟨piece_run, same⟩ := (alternates.isRun run (by simp)).of_subset nonempty subset
  obtain ⟨left_alternates, right_alternates⟩ := alternates.of_append
  refine left_alternates.append ((singleton piece_run).append right_alternates.tail ?_) ?_
  · intro last last_eq next next_eq
    obtain rfl : piece = last := by simpa using last_eq
    rw [same]
    exact (List.isChain_cons.1 right_alternates.changes).1 next next_eq
  · intro last last_eq next next_eq
    obtain rfl : piece = next := by simpa using next_eq
    rw [same]
    exact (List.isChain_append.1 alternates.changes).2.2 last last_eq run rfl

/-- Rewriting each part by one of its sort keeps the parts alternating. -/
theorem map {rewrite : Text → Text} (alternates : Alternates parts)
    (isRun : ∀ run, IsRun run → IsRun (rewrite run))
    (sort : ∀ run, Text.isBlankText (rewrite run) = Text.isBlankText run) :
    Alternates (parts.map rewrite) := by
  constructor
  · intro rewritten mem
    obtain ⟨run, run_mem, rfl⟩ := List.mem_map.1 mem
    exact isRun run (alternates.isRun run run_mem)
  · rw [List.isChain_map]
    simpa only [sort] using alternates.changes

/-- Behind a part comes the other sort. -/
theorem head_flatten {run : Text} (alternates : Alternates (run :: parts)) :
    ∀ char ∈ parts.flatten.head?, Text.isBlank char ≠ Text.isBlankText run := by
  cases parts with
  | nil => simp
  | cons next parts =>
      obtain ⟨is_run, changes⟩ := alternates
      obtain ⟨nonempty, pure⟩ := is_run next (by simp)
      obtain ⟨first, others, rfl⟩ := List.exists_cons_of_ne_nil nonempty
      intro char char_eq
      obtain rfl : first = char := by simpa using char_eq
      rw [pure first List.mem_cons_self]
      exact ((List.isChain_cons_cons.1 changes).1).symm

/-- So does a part behind others. -/
theorem getLast_flatten {run : Text} (alternates : Alternates (parts ++ [run])) :
    ∀ char ∈ parts.flatten.getLast?, Text.isBlank char ≠ Text.isBlankText run := by
  rcases List.eq_nil_or_concat' parts with rfl | ⟨parts, last, rfl⟩
  · simp
  · obtain ⟨is_run, changes⟩ := alternates
    obtain ⟨nonempty, pure⟩ := is_run last (by simp)
    intro char char_eq
    have differs := (List.isChain_append.1 changes).2.2 last (by simp) run rfl
    have mem : char ∈ last := by
      rw [List.flatten_append, List.flatten_singleton,
        List.getLast?_append_of_ne_nil _ nonempty] at char_eq
      exact List.mem_of_getLast? char_eq
    rwa [pure char mem]

end Alternates

/-- The runs of a text alternate. -/
theorem alternates_runs (text : Text) : Alternates (runs text) := by
  fun_induction runs text with
  | case1 => exact .nil
  | case2 char rest rest_runs => exact .singleton (isRun_singleton char)
  | case3 char rest more rest_runs induction =>
      rw [rest_runs] at induction
      exact absurd rfl (induction.isRun [] (by simp)).nonempty
  | case4 char rest next run more rest_runs same induction =>
      rw [rest_runs] at induction
      obtain ⟨isRun, changes⟩ := induction
      constructor
      · intro other mem
        rcases List.mem_cons.1 mem with rfl | mem
        · exact isRun_cons_iff.2 ⟨same, isRun _ (by simp)⟩
        · exact isRun other (List.mem_cons_of_mem _ mem)
      · rw [List.isChain_cons] at changes ⊢
        rw [isBlankText_cons_of_eq same]
        exact changes
  | case5 char rest next run more rest_runs differs induction =>
      rw [rest_runs] at induction
      refine (Alternates.singleton (isRun_singleton char)).append induction ?_
      intro last last_eq head head_eq
      obtain rfl : [char] = last := by simpa using last_eq
      obtain rfl : next :: run = head := by simpa using head_eq
      rw [(isRun_singleton char).isBlankText_cons, (induction.isRun _ (by simp)).isBlankText_cons]
      exact differs

theorem isRun_of_mem_runs {text run : Text} (mem : run ∈ runs text) : IsRun run :=
  (alternates_runs text).isRun run mem

/-- A run in front of a text that begins with the other sort is the first run of both. -/
theorem runs_append_of_isRun {run rest : Text} (is_run : IsRun run)
    (changes : ∀ next ∈ (runs rest).head?, Text.isBlankText run ≠ Text.isBlankText next) :
    runs (run ++ rest) = run :: runs rest := by
  induction run with
  | nil => exact absurd rfl is_run.nonempty
  | cons char others induction =>
      cases others with
      | nil =>
          rw [List.cons_append, List.nil_append, runs]
          rcases found : runs rest with _ | ⟨_ | ⟨next, first⟩, more⟩
          · rfl
          · exact absurd rfl ((alternates_runs rest).isRun _ (by simp [found])).nonempty
          · have first_isRun : IsRun (next :: first) :=
              (alternates_runs rest).isRun _ (by simp [found])
            have differs := changes (next :: first) (by simp [found])
            rw [is_run.isBlankText_cons, first_isRun.isBlankText_cons] at differs
            exact if_neg differs
      | cons next others =>
          obtain ⟨same, others_isRun⟩ := isRun_cons_iff.1 is_run
          rw [isBlankText_cons_of_eq same] at changes
          rw [List.cons_append, runs, induction others_isRun changes]
          exact if_pos same

/-- Parts that alternate are the runs of the text that they make up. -/
theorem runs_flatten {parts : List Text} (alternates : Alternates parts) :
    runs parts.flatten = parts := by
  induction parts with
  | nil => rfl
  | cons run rest induction =>
      have rest_runs := induction alternates.tail
      rw [List.flatten_cons, runs_append_of_isRun (alternates.isRun run (by simp)), rest_runs]
      rw [rest_runs]
      exact (List.isChain_cons.1 alternates.changes).1

/-- The runs of a text are its maximal stretches of characters of one sort. -/
theorem runs_eq_splitBy (text : Text) :
    runs text = text.splitBy fun left right => Text.isBlank left == Text.isBlank right := by
  obtain ⟨isRun, changes⟩ := alternates_runs text
  have split := List.splitBy_flatten (l := runs text)
    (r := fun left right => Text.isBlank left == Text.isBlank right)
    (fun mem => (isRun [] mem).nonempty rfl) ?_ ?_
  · rw [← split, flatten_runs]
  · intro run mem
    refine (List.pairwise_of_forall_mem_list fun left left_mem right right_mem => ?_).isChain
    rw [beq_iff_eq, (isRun run mem).pure left left_mem, (isRun run mem).pure right right_mem]
  · refine changes.imp_of_mem_imp ?_
    intro left right left_mem right_mem differs
    refine ⟨(isRun left left_mem).nonempty, (isRun right right_mem).nonempty, ?_⟩
    rw [(isRun left left_mem).pure _ (List.getLast_mem _),
      (isRun right right_mem).pure _ (List.head_mem _)]
    simpa using differs

/-- Where the sort of the characters changes, the runs of a text are those of its two sides. -/
theorem runs_append {left right : Text}
    (changes : ∀ last ∈ left.getLast?, ∀ next ∈ right.head?,
      Text.isBlank last ≠ Text.isBlank next) :
    runs (left ++ right) = runs left ++ runs right := by
  rw [runs_eq_splitBy, runs_eq_splitBy, runs_eq_splitBy]
  exact List.splitBy_append (by simpa using changes)

theorem runs_of_isRun {run : Text} (is_run : IsRun run) : runs run = [run] := by
  simpa using runs_flatten (.singleton is_run)

/-- A run between stretches of text that leave off and go on with the other sort. -/
structure IsMaximal (before run after : Text) : Prop where
  isRun : IsRun run
  left : ∀ char ∈ before.getLast?, Text.isBlank char ≠ Text.isBlankText run
  right : ∀ char ∈ after.head?, Text.isBlank char ≠ Text.isBlankText run

/-- The runs of a text are the maximal ones, each where it stands. -/
theorem isMaximal_iff {text before run after : Text} :
    before ++ run ++ after = text ∧ IsMaximal before run after ↔
      ∃ left right, runs text = left ++ run :: right ∧ left.flatten = before ∧
        right.flatten = after := by
  constructor
  · rintro ⟨rfl, is_run, left, right⟩
    refine ⟨runs before, runs after, ?_, flatten_runs before, flatten_runs after⟩
    have before_changes : ∀ last ∈ before.getLast?, ∀ next ∈ run.head?,
        Text.isBlank last ≠ Text.isBlank next := by
      intro last last_eq next next_eq
      rw [is_run.pure next (List.mem_of_mem_head? next_eq)]
      exact left last last_eq
    have after_changes : ∀ last ∈ (before ++ run).getLast?, ∀ next ∈ after.head?,
        Text.isBlank last ≠ Text.isBlank next := by
      intro last last_eq next next_eq
      rw [List.getLast?_append_of_ne_nil _ is_run.nonempty] at last_eq
      rw [is_run.pure last (List.mem_of_getLast? last_eq)]
      exact (right next next_eq).symm
    rw [runs_append after_changes, runs_append before_changes, runs_of_isRun is_run,
      List.append_assoc, List.singleton_append]
  · rintro ⟨left, right, runs_eq, rfl, rfl⟩
    have alternates := alternates_runs text
    rw [runs_eq] at alternates
    have text_eq := flatten_runs text
    rw [runs_eq, List.flatten_append, List.flatten_cons, ← List.append_assoc] at text_eq
    have ahead : Alternates (left ++ [run]) := by
      rw [← List.singleton_append, ← List.append_assoc] at alternates
      exact alternates.of_append.1
    obtain ⟨-, behind⟩ := alternates.of_append
    exact ⟨text_eq, behind.isRun run List.mem_cons_self, ahead.getLast_flatten,
      behind.head_flatten⟩

/-- Blanks at the end of a text stand at the end of its last run. -/
theorem runs_append_blanks (before : Text) {gap : Text} (nonempty : gap ≠ [])
    (blank : Text.isBlankText gap = true) :
    ∃ front more, Text.isBlankText more = true ∧ runs (before ++ gap) = front ++ [more ++ gap] := by
  have all_blank : ∀ char ∈ before.rtakeWhile Text.isBlank ++ gap, Text.isBlank char = true := by
    intro char mem
    rcases List.mem_append.1 mem with mem | mem
    · exact List.mem_rtakeWhile_imp mem
    · exact List.all_eq_true.1 blank char mem
  have is_run : IsRun (before.rtakeWhile Text.isBlank ++ gap) := by
    refine ⟨by simp [nonempty], fun char mem => ?_⟩
    rw [all_blank char mem, Text.isBlankText, List.all_eq_true.2 all_blank]
  refine ⟨runs (before.rdropWhile Text.isBlank), before.rtakeWhile Text.isBlank,
    List.all_eq_true.2 fun char mem => List.mem_rtakeWhile_imp mem, ?_⟩
  rw [← runs_of_isRun is_run, ← runs_append, ← List.append_assoc,
    List.rdropWhile_append_rtakeWhile]
  intro last last_eq next next_eq
  have last_stands : Text.isBlank last ≠ true := by
    rw [← List.getLast_of_mem_getLast? last_eq]
    exact List.rdropWhile_last_not _ _ _
  rw [Bool.eq_false_iff.2 last_stands, all_blank next (List.mem_of_mem_head? next_eq)]
  decide

end Prose
end ProseCheck
