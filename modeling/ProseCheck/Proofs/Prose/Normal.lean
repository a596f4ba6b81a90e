import ProseCheck.Proofs.Prose.Runs

/-!
# The normal form of plain prose

In normal form a run of blanks that holds two line feeds or more is a blank line and one that holds
a single line feed is a line break; all else stands as it is.  Bringing a text to its normal form
rewrites its runs one by one, keeps their kinds, and does nothing to a text in normal form.
-/

namespace ProseCheck
namespace Prose

/-- The normal form of a run. -/
def normalRun (run : Text) : Text :=
  if !Text.isBlankText run then run
  else if run.count '\n' ≥ 2 then ['\n', '\n']
  else if run.count '\n' = 1 then ['\n']
  else run

/-- The normal form of a text: that of each maximal stretch of blanks or of other characters. -/
def normal (text : Text) : Text :=
  (text.splitBy fun left right => Text.isBlank left == Text.isBlank right).flatMap normalRun

theorem kindOf_of_blankLine {run : Text} (blank : Text.isBlankText run = true)
    (several : 2 ≤ run.count '\n') : kindOf run = .parbreak := by
  simp [kindOf, blank, several]

section

variable (run : Text)

/-- A run in normal form stays as it is; any other one is blank and keeps its kind. -/
theorem normalRun_cases :
    normalRun run = run ∨
    (Text.isBlankText run = true ∧ kindOf run = .parbreak ∧ normalRun run = ['\n', '\n']) ∨
    (Text.isBlankText run = true ∧ kindOf run = .space ∧ normalRun run = ['\n']) := by
  cases blank : Text.isBlankText run with
  | false => simp [normalRun, blank]
  | true =>
      by_cases several : run.count '\n' ≥ 2
      · simp [kindOf, normalRun, blank, several]
      · by_cases one : run.count '\n' = 1 <;> simp [kindOf, normalRun, blank, several, one]

@[simp]
theorem isBlankText_normalRun : Text.isBlankText (normalRun run) = Text.isBlankText run := by
  rcases normalRun_cases run with same | ⟨blank, -, rewritten⟩ | ⟨blank, -, rewritten⟩
  · rw [same]
  · rw [rewritten, blank]
    decide
  · rw [rewritten, blank]
    decide

@[simp]
theorem kindOf_normalRun : kindOf (normalRun run) = kindOf run := by
  rcases normalRun_cases run with same | ⟨-, kind, rewritten⟩ | ⟨-, kind, rewritten⟩
  · rw [same]
  · rw [rewritten, kind]
    decide
  · rw [rewritten, kind]
    decide

@[simp]
theorem normalRun_normalRun : normalRun (normalRun run) = normalRun run := by
  rcases normalRun_cases run with same | ⟨-, -, rewritten⟩ | ⟨-, -, rewritten⟩
  · rw [same, same]
  · rw [rewritten]
    decide
  · rw [rewritten]
    decide

variable {run}

theorem normalRun_ne_nil (nonempty : run ≠ []) : normalRun run ≠ [] := by
  rcases normalRun_cases run with same | ⟨-, -, rewritten⟩ | ⟨-, -, rewritten⟩
  · rwa [same]
  · simp [rewritten]
  · simp [rewritten]

/-- What holds a word is a text and stands in the stream as it is. -/
theorem normalRun_of_word (holds : ∃ char ∈ normalRun run, Text.isBlank char = false) :
    Text.isBlankText run = false ∧ normalRun run = run := by
  have not_blank : Text.isBlankText run = false := by
    obtain ⟨char, mem, solid⟩ := holds
    rw [← isBlankText_normalRun, Text.isBlankText, List.all_eq_false]
    exact ⟨char, mem, by simp [solid]⟩
  exact ⟨not_blank, by simp [normalRun, not_blank]⟩

theorem IsRun.normalRun (is_run : IsRun run) : IsRun (normalRun run) := by
  rcases normalRun_cases run with same | ⟨-, -, rewritten⟩ | ⟨-, -, rewritten⟩
  · rwa [same]
  · rw [rewritten]
    exact ⟨by simp, by simp [Text.isBlankText]⟩
  · rw [rewritten]
    exact isRun_singleton '\n'

end

theorem normal_eq_flatMap_runs (text : Text) : normal text = (runs text).flatMap normalRun := by
  rw [normal, runs_eq_splitBy]

/-- The normal form of parts that alternate is made up of theirs. -/
theorem normal_flatten {parts : List Text} (alternates : Alternates parts) :
    normal parts.flatten = parts.flatMap normalRun := by
  rw [normal_eq_flatMap_runs, runs_flatten alternates]

/-- The runs of a text in normal form are the normal forms of its runs. -/
theorem runs_normal (text : Text) : runs (normal text) = (runs text).map normalRun := by
  rw [normal_eq_flatMap_runs, List.flatMap_def]
  exact runs_flatten
    ((alternates_runs text).map (fun _ is_run => is_run.normalRun) isBlankText_normalRun)

end Prose
end ProseCheck

/-!
## Words in the stream

Two runs next to each other are of different sorts, in a text and in its normal form.  So a word of
the stream, none of whose characters is blank, stands in one run, and what surrounds it in the text
has for its normal form what surrounds it in the stream.
-/

namespace ProseCheck
namespace Prose

/-- Characters that are not blank do not go on from one run into the next. -/
theorem not_straddles {run : Text} {rest : List Text} (alternates : Alternates (run :: rest))
    {left before after right : Text} (before_nonempty : before ≠ []) (after_nonempty : after ≠ [])
    (before_solid : ∀ char ∈ before, Text.isBlank char = false)
    (after_solid : ∀ char ∈ after, Text.isBlank char = false)
    (run_eq : normalRun run = left ++ before) :
    rest.flatMap normalRun ≠ after ++ right := by
  intro rest_eq
  obtain ⟨char, mem⟩ := List.exists_mem_of_ne_nil _ before_nonempty
  have run_solid : Text.isBlankText run = false :=
    (normalRun_of_word ⟨char, by simp [run_eq, mem], before_solid char mem⟩).1
  cases rest with
  | nil =>
      have nothing : after = [] := (List.append_eq_nil_iff.1 rest_eq.symm).1
      exact after_nonempty nothing
  | cons next more =>
      have next_blank : Text.isBlankText (normalRun next) = true := by
        have changes := (List.isChain_cons.1 alternates.changes).1 next rfl
        rw [run_solid] at changes
        simpa using changes.symm
      obtain ⟨first, tail, after_eq⟩ := List.exists_cons_of_ne_nil after_nonempty
      obtain ⟨head, others, next_eq⟩ := List.exists_cons_of_ne_nil
        (normalRun_ne_nil (alternates.isRun next (by simp)).nonempty)
      have same : head = first := by
        rw [List.flatMap_cons, next_eq, after_eq] at rest_eq
        exact (List.cons.inj rest_eq).1
      have head_blank : Text.isBlank head = true :=
        List.all_eq_true.1 next_blank head (by simp [next_eq])
      rw [same, after_solid first (by simp [after_eq])] at head_blank
      contradiction

/-- A word of the stream stands in the first run, or behind it. -/
theorem within_first_or_behind {run : Text} {rest : List Text}
    (alternates : Alternates (run :: rest)) {left word right : Text}
    (solid : ∀ char ∈ word, Text.isBlank char = false)
    (stream_eq : normalRun run ++ rest.flatMap normalRun = left ++ (word ++ right)) :
    (∃ after, normalRun run = left ++ word ++ after ∧ right = after ++ rest.flatMap normalRun) ∨
      ∃ more, left = normalRun run ++ more ∧ rest.flatMap normalRun = more ++ word ++ right := by
  rcases List.append_eq_append_iff.1 stream_eq with
    ⟨more, left_eq, rest_eq⟩ | ⟨begun, run_eq, word_eq⟩
  · exact .inr ⟨more, left_eq, by rw [rest_eq, List.append_assoc]⟩
  · rcases List.append_eq_append_iff.1 word_eq with
      ⟨after, begun_eq, right_eq⟩ | ⟨after, begun_eq, rest_eq⟩
    · exact .inl ⟨after, by rw [run_eq, begun_eq, List.append_assoc], right_eq⟩
    · -- The first run holds the start of the word, and what follows it holds the rest.
      by_cases unbegun : begun = []
      · subst unbegun
        exact .inr ⟨[], by simpa using run_eq.symm, by simp [rest_eq, begun_eq]⟩
      by_cases ended : after = []
      · subst ended
        exact .inl ⟨[], by simpa [begun_eq] using run_eq, by simp [rest_eq]⟩
      have begun_solid : ∀ char ∈ begun, Text.isBlank char = false :=
        fun char mem => solid char (by simp [begun_eq, mem])
      have after_solid : ∀ char ∈ after, Text.isBlank char = false :=
        fun char mem => solid char (by simp [begun_eq, mem])
      exact absurd rest_eq
        (not_straddles alternates unbegun ended begun_solid after_solid run_eq)

/-- A word of the stream of some runs stands in one of them. -/
theorem exists_run_of_word {parts : List Text} (alternates : Alternates parts)
    {left word right : Text} (nonempty : word ≠ [])
    (solid : ∀ char ∈ word, Text.isBlank char = false)
    (stream_eq : parts.flatMap normalRun = left ++ word ++ right) :
    ∃ front run back before after, parts = front ++ run :: back ∧
      Text.isBlankText run = false ∧ run = before ++ word ++ after ∧
        left = front.flatMap normalRun ++ before ∧ right = after ++ back.flatMap normalRun := by
  induction parts generalizing left with
  | nil => simp_all
  | cons run rest induction =>
      rw [List.flatMap_cons, List.append_assoc] at stream_eq
      rcases within_first_or_behind alternates solid stream_eq with
        ⟨after, run_eq, right_eq⟩ | ⟨more, left_eq, rest_eq⟩
      · obtain ⟨char, mem⟩ := List.exists_mem_of_ne_nil _ nonempty
        have char_mem : char ∈ normalRun run := by simp [run_eq, mem]
        obtain ⟨not_blank, same⟩ := normalRun_of_word ⟨char, char_mem, solid char mem⟩
        exact ⟨[], run, rest, left, after, rfl, not_blank, by rw [← run_eq, same], rfl, right_eq⟩
      · obtain ⟨front, other, back, before, after, rfl, not_blank, other_eq, rfl, right_eq⟩ :=
          induction alternates.tail rest_eq
        have left_eq : left = (run :: front).flatMap normalRun ++ before := by
          rw [left_eq, List.flatMap_cons, List.append_assoc]
        exact ⟨run :: front, other, back, before, after, rfl, not_blank, other_eq, left_eq,
          right_eq⟩

/-- What stands before a word in its run stands in the normal form as it is, and so does what stands
behind it. -/
theorem normal_around_word {front back : List Text} {run before word after : Text}
    (alternates : Alternates (front ++ run :: back)) (not_blank : Text.isBlankText run = false)
    (run_eq : run = before ++ word ++ after) :
    normal (front.flatten ++ before) = front.flatMap normalRun ++ before ∧
      normal (after ++ back.flatten) = after ++ back.flatMap normalRun := by
  have stands : ∀ part, part ≠ [] → part ⊆ run → normalRun part = part := by
    intro part nonempty subset
    have same := ((alternates.isRun run (by simp)).of_subset nonempty subset).2
    simp [normalRun, same, not_blank]
  constructor
  · by_cases nothing : before = []
    · rw [nothing, List.append_nil, List.append_nil, normal_flatten alternates.of_append.1]
    · have subset : before ⊆ run := by simp [run_eq]
      have joined : Alternates (front ++ [before] ++ back) := by
        simpa using alternates.part nothing subset
      simpa [stands before nothing subset] using normal_flatten joined.of_append.1
  · by_cases nothing : after = []
    · rw [nothing, List.nil_append, List.nil_append, normal_flatten alternates.of_append.2.tail]
    · have subset : after ⊆ run := by simp [run_eq]
      have joined := (alternates.part nothing subset).of_append.2
      simpa [stands after nothing subset] using normal_flatten joined

end Prose
end ProseCheck
