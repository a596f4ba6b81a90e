import ProseCheck.Proofs.Prose.Runs

/-!
# Leaves of plain prose

Whatever a pattern of plain prose gives back, what it takes in the end is a whole run: words and
blanks reach as far as their sort does, and blank lines begin and end where the run of blanks does
that holds them.  So the leaves of plain prose are its maximal runs, nothing is left out, and a run
of blanks is a paragraph break exactly if it holds two line feeds, wherever these stand in it.
-/

namespace ProseCheck
namespace Prose

/-- Blanks without a line feed among them are those of a gap. -/
theorem isGap_of_mem {run : Text} (blank : Text.isBlankText run = true) (inside : '\n' ∉ run) :
    ∀ char ∈ run, isGap char = true := by
  intro char mem
  rw [isGap, Bool.and_eq_true, bne_iff_ne]
  exact ⟨List.all_eq_true.1 blank char mem, fun feed => inside (feed ▸ mem)⟩

section Lines

variable {run rest : Text} (next : Text → Option Text)

/-- No shorter gap is tried in vain: behind it stands a blank of the line and no line feed. -/
theorem line_eq (text : Text) :
    line next text =
      (Pattern.one (· == '\n') next (text.dropWhile isGap)).map (text.takeWhile isGap ++ ·) := by
  refine Pattern.upTo_one (Nat.le_refl _) (.inr fun char rest within => ?_)
  have no_feed : (char == '\n') = false := by
    rw [isGap, Bool.and_eq_true, bne_iff_ne] at within
    exact beq_false_of_ne within.2
  simp [Pattern.one, no_feed]

/-- A line of blanks ends with the first line feed. -/
theorem line_append {front : Text} (back : Text) (blank : Text.isBlankText front = true)
    (inside : '\n' ∉ front) :
    line next (front ++ '\n' :: back) = (next back).map (front ++ '\n' :: ·) := by
  have within := isGap_of_mem blank inside
  have stops : isGap '\n' = false := by decide
  rw [line_eq, List.dropWhile_append_of_pos within, List.takeWhile_append_of_pos within,
    List.dropWhile_cons_of_neg (by simp [stops]), List.takeWhile_cons_of_neg (by simp [stops])]
  simp [Pattern.one, Function.comp_def]

/-- Without a line feed among the blanks no line ends. -/
theorem line_of_not_mem (blank : Text.isBlankText run = true) (inside : '\n' ∉ run)
    (ends : ∀ char ∈ rest.head?, Text.isBlank char = false) : line next (run ++ rest) = none := by
  rw [line_eq, List.dropWhile_append_of_pos (isGap_of_mem blank inside)]
  cases rest with
  | nil => rfl
  | cons char rest =>
      have solid : Text.isBlank char = false := ends char rfl
      have no_feed : (char == '\n') = false := beq_false_of_ne fun feed => by
        subst feed
        exact absurd solid (by decide)
      simp [isGap, solid, Pattern.one, no_feed]

end Lines

section Blanks

variable {run rest : Text}

/-- The first line of blanks that hold a line feed. -/
theorem exists_line (blank : Text.isBlankText run = true) (feeds : '\n' ∈ run) :
    ∃ front back, run = front ++ '\n' :: back ∧ '\n' ∉ front ∧
      Text.isBlankText front = true ∧ Text.isBlankText back = true := by
  obtain ⟨front, back, rfl, inside⟩ := List.eq_append_cons_of_mem feeds
  rw [Text.isBlankText, List.all_append, List.all_cons, Bool.and_eq_true, Bool.and_eq_true]
    at blank
  exact ⟨front, back, rfl, inside, blank.1, blank.2.2⟩

theorem take?_gap (text : Text) : gap.take? text = some (text.takeWhile isGap) := by
  rw [Pattern.take?, gap, Pattern.many, Pattern.upTo_one (Nat.le_refl _) (.inl rfl)]
  simp

/-- Blanks without a line feed are one gap. -/
theorem take?_gap_append (blank : Text.isBlankText run = true) (inside : '\n' ∉ run)
    (ends : ∀ char ∈ rest.head?, Text.isBlank char = false) :
    gap.take? (run ++ rest) = some run := by
  rw [take?_gap, List.takeWhile_append_of_pos (isGap_of_mem blank inside)]
  cases rest with
  | nil => simp
  | cons char rest => simp [isGap, ends char rfl]

/-- Lines of blanks and the gap behind them reach to the end of the blanks. -/
theorem upTo_line {clock : Text} (blank : Text.isBlankText run = true)
    (ends : ∀ char ∈ rest.head?, Text.isBlank char = false)
    (enough : run.count '\n' ≤ clock.length) :
    line.upTo clock gap.take? (run ++ rest) = some run := by
  induction clock generalizing run with
  | nil =>
      have inside : '\n' ∉ run := List.count_eq_zero.1 (Nat.le_zero.1 enough)
      exact take?_gap_append blank inside ends
  | cons tick clock induction =>
      rw [Pattern.upTo]
      by_cases feeds : '\n' ∈ run
      · obtain ⟨front, back, rfl, inside, front_blank, back_blank⟩ := exists_line blank feeds
        have fewer : back.count '\n' ≤ clock.length := by
          rw [List.count_append, List.count_cons_self, List.length_cons] at enough
          omega
        rw [List.append_assoc, List.cons_append, line_append _ _ front_blank inside,
          induction back_blank fewer]
        rfl
      · rw [line_of_not_mem _ blank feeds ends, Option.none_or]
        exact take?_gap_append blank feeds ends

/-- Blanks that hold a line feed begin with a line, and all else follows from there. -/
theorem several_line (blank : Text.isBlankText run = true)
    (ends : ∀ char ∈ rest.head?, Text.isBlank char = false) :
    line.several gap.take? (run ++ rest) = if '\n' ∈ run then some run else none := by
  rw [Pattern.several, Pattern.andThen]
  split
  · rename_i feeds
    obtain ⟨front, back, rfl, inside, front_blank, back_blank⟩ := exists_line blank feeds
    have enough : back.count '\n' ≤ (back ++ rest).length := by
      rw [List.length_append]
      exact Nat.le_add_right_of_le List.count_le_length
    rw [List.append_assoc, List.cons_append, line_append _ _ front_blank inside, Pattern.many,
      upTo_line back_blank ends enough]
    rfl
  · rename_i inside
    exact line_of_not_mem _ blank inside ends

/-- Blank lines are taken where the blanks hold two line feeds, and then all blanks are taken. -/
theorem take?_blankLines (blank : Text.isBlankText run = true)
    (ends : ∀ char ∈ rest.head?, Text.isBlank char = false) :
    blankLines.take? (run ++ rest) = if 2 ≤ run.count '\n' then some run else none := by
  change line (line.several gap.take?) (run ++ rest) = _
  by_cases feeds : '\n' ∈ run
  · obtain ⟨front, back, rfl, inside, front_blank, back_blank⟩ := exists_line blank feeds
    have count_eq : (front ++ '\n' :: back).count '\n' = back.count '\n' + 1 := by
      rw [List.count_append, List.count_eq_zero.2 inside, List.count_cons_self, Nat.zero_add]
    rw [List.append_assoc, List.cons_append, line_append _ _ front_blank inside,
      several_line back_blank ends, count_eq]
    have more : '\n' ∈ back ↔ 2 ≤ back.count '\n' + 1 := by
      rw [← List.count_pos_iff]
      omega
    simp only [more]
    split <;> rfl
  · rw [line_of_not_mem _ blank feeds ends, List.count_eq_zero.2 feeds, if_neg (by decide)]

end Blanks

section Leaves

variable {run rest : Text}

/-- Of a run and what follows it with the other sort, a repeated class of its sort takes the run. -/
theorem takeWhile_append_of_isRun {admits : Char → Bool} (inside : ∀ char ∈ run, admits char = true)
    (ends : ∀ char ∈ rest.head?, admits char = false) :
    (run ++ rest).takeWhile admits = run := by
  rw [List.takeWhile_append_of_pos inside]
  cases rest with
  | nil => simp
  | cons char rest => simp [ends char rfl]

theorem blankLines_of_solid {char : Char} (solid : Text.isBlank char = false) :
    blankLines.take? (char :: rest) = none := by
  have ends : ∀ next ∈ (char :: rest).head?, Text.isBlank next = false := by simpa using solid
  exact line_of_not_mem (line.several gap.take?) rfl List.not_mem_nil ends

/-- Blank lines are tried first, and words last. -/
theorem leaf?_eq (text : Text) :
    leaf? text = ((blankLines.take? text).map (.leaf .parbreak)).or
      (((blanks.take? text).map (.leaf .space)).or ((word.take? text).map (.leaf .text))) := by
  simp only [leaf?, tokens, List.findSome?_cons]
  cases blankLines.take? text with
  | some run => rfl
  | none =>
      cases blanks.take? text with
      | some run => rfl
      | none => cases word.take? text <;> rfl

/-- At the beginning of a run the leaf of the run is read. -/
theorem leaf?_of_isRun (is_run : IsRun run)
    (changes : ∀ char ∈ rest.head?, Text.isBlank char ≠ Text.isBlankText run) :
    leaf? (run ++ rest) = some (leafOf run) := by
  obtain ⟨nonempty, pure⟩ := is_run
  rw [leaf?_eq]
  cases sort : Text.isBlankText run with
  | true =>
      rw [sort] at pure
      have ends : ∀ char ∈ rest.head?, Text.isBlank char = false := by simpa [sort] using changes
      have blanks_eq : blanks.take? (run ++ rest) = some run := by
        rw [blanks, Pattern.take?_several_one, takeWhile_append_of_isRun pure ends,
          if_neg nonempty]
      rw [take?_blankLines sort ends, blanks_eq, leafOf, kindOf, sort]
      split <;> rfl
  | false =>
      rw [sort] at pure
      have solid : ∀ char ∈ run, (!Text.isBlank char) = true := by simpa using pure
      have ends : ∀ char ∈ rest.head?, (!Text.isBlank char) = false := by
        simpa [sort] using changes
      have word_eq : word.take? (run ++ rest) = some run := by
        rw [word, Pattern.take?_several_one, takeWhile_append_of_isRun solid ends,
          if_neg nonempty]
      obtain ⟨char, others, rfl⟩ := List.exists_cons_of_ne_nil nonempty
      have first : Text.isBlank char = false := pure char List.mem_cons_self
      have no_blanks : blanks.take? (char :: (others ++ rest)) = none := by
        rw [blanks, Pattern.take?_several_one, List.takeWhile_cons_of_neg (by simp [first]),
          if_pos rfl]
      rw [word_eq, List.cons_append, blankLines_of_solid first, no_blanks, leafOf, kindOf, sort]
      rfl

theorem scan_length (read? : Text → Option Node) (run rest : Text) :
    scan read? run.length (run ++ rest) = scan read? 0 rest := by
  induction run with
  | nil => rfl
  | cons char run induction =>
      rw [List.length_cons, List.cons_append, scan, if_pos (Nat.succ_pos _)]
      exact induction

theorem scan_append (is_run : IsRun run)
    (changes : ∀ char ∈ rest.head?, Text.isBlank char ≠ Text.isBlankText run) :
    scan leaf? 0 (run ++ rest) = leafOf run :: scan leaf? 0 rest := by
  have read := leaf?_of_isRun is_run changes
  obtain ⟨char, others, rfl⟩ := List.exists_cons_of_ne_nil is_run.nonempty
  rw [List.cons_append] at read
  rw [List.cons_append, scan, if_neg (Nat.lt_irrefl 0), read]
  exact congrArg _ (scan_length leaf? others rest)

/-- Parts that alternate are the leaves of the text that they make up. -/
theorem scan_flatten {parts : List Text} (alternates : Alternates parts) :
    scan leaf? 0 parts.flatten = parts.map leafOf := by
  induction parts with
  | nil => rfl
  | cons run parts induction =>
      rw [List.flatten_cons, scan_append (alternates.isRun run (by simp))
        alternates.head_flatten, induction alternates.tail, List.map_cons]

/-- The leaves of plain prose are those of its runs. -/
theorem parse_eq (text : Text) : parse text = .inner .markup ((runs text).map leafOf) := by
  have leaves := scan_flatten (alternates_runs text)
  rw [flatten_runs] at leaves
  rw [parse, leaves]

end Leaves

/-- The leaves of plain prose are the maximal stretches of blanks and of other characters, each
where it stands: a stretch of other characters is a text, one of blanks a paragraph break if it
holds two line feeds and else a space. -/
theorem parse_canonical (text : Text) :
    (parse text).kind = .markup ∧
      (∀ leaf ∈ (parse text).children, leaf.children = [] ∧ leaf.text ≠ []) ∧
      (parse text).children.flatMap Node.text = text ∧
      (∀ before run after,
        before ++ run ++ after = text ∧ IsMaximal before run after ↔
          ∃ left leaf right, (parse text).children = left ++ leaf :: right ∧
            left.flatMap Node.text = before ∧ leaf.text = run ∧
              right.flatMap Node.text = after) ∧
      ∀ leaf ∈ (parse text).children,
        (∀ char ∈ leaf.text, Text.isBlank char = false) ∧ leaf.kind = .text ∨
        (∀ char ∈ leaf.text, Text.isBlank char = true) ∧
          leaf.kind = if 2 ≤ leaf.text.count '\n' then .parbreak else .space := by
  have children_eq : (parse text).children = (runs text).map leafOf := by
    rw [parse_eq]
    rfl
  have texts_eq : ∀ parts : List Text, (parts.map leafOf).flatMap Node.text = parts.flatten := by
    intro parts
    rw [List.flatMap_map]
    exact List.flatMap_id'
  rw [children_eq]
  refine ⟨rfl, ?_, ?_, ?_, ?_⟩
  · intro leaf mem
    obtain ⟨run, run_mem, rfl⟩ := List.mem_map.1 mem
    exact ⟨rfl, (isRun_of_mem_runs run_mem).nonempty⟩
  · rw [texts_eq, flatten_runs]
  · intro before run after
    rw [isMaximal_iff]
    constructor
    · rintro ⟨left, right, runs_eq, rfl, rfl⟩
      exact ⟨left.map leafOf, leafOf run, right.map leafOf, by rw [runs_eq]; simp, texts_eq left,
        rfl, texts_eq right⟩
    · rintro ⟨left, leaf, right, leaves_eq, rfl, rfl, rfl⟩
      obtain ⟨front, others, runs_eq, rfl, others_eq⟩ := List.map_eq_append_iff.1 leaves_eq
      obtain ⟨run, back, rfl, rfl, rfl⟩ := List.map_eq_cons_iff.1 others_eq
      exact ⟨front, back, runs_eq, (texts_eq front).symm, (texts_eq back).symm⟩
  · intro leaf mem
    obtain ⟨run, run_mem, rfl⟩ := List.mem_map.1 mem
    have pure := (isRun_of_mem_runs run_mem).pure
    cases sort : Text.isBlankText run with
    | true =>
        refine .inr ⟨fun char char_mem => (pure char char_mem).trans sort, ?_⟩
        simp [leafOf, Node.leaf, kindOf, sort]
    | false =>
        refine .inl ⟨fun char char_mem => (pure char char_mem).trans sort, ?_⟩
        simp [leafOf, Node.leaf, kindOf, sort]

end Prose
end ProseCheck
