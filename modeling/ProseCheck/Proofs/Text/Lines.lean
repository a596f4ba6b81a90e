import ProseCheck.Proofs.Text.Octets
import ProseCheck.Source.Basic

/-!
# Lines as pieces of a text

Terminators cut a text into pieces, of which there is one more than terminators.  The table of
starts holds where each piece starts, but for the place behind a last terminator that is neither a
line feed nor a carriage return.
-/

namespace ProseCheck
namespace Lines

/-- A piece of a text with the terminator behind it; there is none behind the last piece. -/
structure Line where
  /-- The piece. -/
  body : Text
  /-- The terminator. -/
  ending : Text

namespace Line

/-- The piece as it stands in the text. -/
def written (line : Line) : Text := line.body ++ line.ending

/-- The piece with a character in front of it. -/
def cons (char : Char) (line : Line) : Line := { line with body := char :: line.body }

end Line

/-- Pieces of a text between terminators. -/
def pieces : Text → List Line
  | [] => [⟨[], []⟩]
  | '\r' :: '\n' :: rest => ⟨[], ['\r', '\n']⟩ :: pieces rest
  | char :: rest =>
    if isTerminator char then ⟨[], [char]⟩ :: pieces rest
    else (pieces rest).modifyHead (Line.cons char)

/-- Number of terminators in a text. -/
def terminators : Text → Nat
  | [] => 0
  | '\r' :: '\n' :: rest => terminators rest + 1
  | char :: rest => if isTerminator char then terminators rest + 1 else terminators rest

/-- The text of some pieces. -/
def written (lines : List Line) : Text := lines.flatMap Line.written

/-- Octets at which neighbouring lines start, the first of them at octet `first`. -/
def begins (first : Nat) : List Text → List Nat
  | [] => []
  | line :: rest => first :: begins (first + Utf8.size line) rest

/-- Whether something stands behind the last terminator of a text. -/
def isOpen (text : Text) : Bool := text.getLast?.any fun char => !isTerminator char

/-- Whether a text ends in a terminator that is neither a line feed nor a carriage return. -/
def endsOddly (text : Text) : Bool :=
  text.getLast?.any fun char => isTerminator char && char != '\n' && char != '\r'

@[simp]
theorem written_append (lines more : List Line) :
    written (lines ++ more) = written lines ++ written more := by
  simp [written]

@[simp]
theorem written_cons (line : Line) (lines : List Line) :
    written (line :: lines) = line.written ++ written lines := rfl

@[simp]
theorem written_nil : written [] = [] := rfl

theorem pieces_ne_nil (text : Text) : pieces text ≠ [] := by
  fun_induction pieces text <;> simp_all

theorem map_written_modifyHead (lines : List Line) (char : Char) :
    (lines.modifyHead (Line.cons char)).map Line.written =
      (lines.map Line.written).modifyHead (List.cons char) := by
  cases lines <;> rfl

theorem written_modifyHead {lines : List Line} (nonempty : lines ≠ []) (char : Char) :
    written (lines.modifyHead (Line.cons char)) = char :: written lines := by
  cases lines with
  | nil => contradiction
  | cons line rest => rfl

/-- The pieces with their terminators make up the text. -/
@[simp]
theorem written_pieces (text : Text) : written (pieces text) = text := by
  fun_induction pieces text with
  | case1 => rfl
  | case2 rest induction => rw [written_cons, induction]; rfl
  | case3 char rest _ ends induction => rw [written_cons, induction]; rfl
  | case4 char rest _ goes_on induction =>
      rw [written_modifyHead (pieces_ne_nil rest), induction]

/-- There is one piece more than terminators. -/
theorem length_pieces (text : Text) : (pieces text).length = terminators text + 1 := by
  fun_induction pieces text <;> simp_all [terminators]

theorem isOpen_cons {char : Char} (ends : isTerminator char = true) (rest : Text) :
    isOpen (char :: rest) = isOpen rest := by
  cases rest with
  | nil => simp [isOpen, ends]
  | cons next more => simp [isOpen]

/-- Where lines are split the pieces stand with their terminators; a last piece without a character
is no line of its own. -/
theorem map_written_pieces (text : Text) :
    (pieces text).map Line.written = if isOpen text then split text else split text ++ [[]] := by
  fun_induction split text with
  | case1 => rfl
  | case2 rest induction =>
      rw [pieces, List.map_cons, induction, isOpen_cons rfl, isOpen_cons rfl]
      split <;> rfl
  | case3 char rest unpaired ends induction =>
      rw [pieces.eq_3 char rest unpaired, if_pos ends, List.map_cons, induction, isOpen_cons ends]
      split <;> rfl
  | case4 char rest unpaired goes_on nothing induction =>
      have rest_eq : rest = [] := by rw [← flatten_split rest, nothing, List.flatten_nil]
      subst rest_eq
      simp [pieces, isOpen, goes_on, Line.written, Line.cons]
  | case5 char rest unpaired goes_on line lines split_eq induction =>
      have nonempty : rest ≠ [] := by
        rintro rfl
        contradiction
      have same_end : isOpen (char :: rest) = isOpen rest := by
        rw [isOpen, List.getLast?_cons_of_ne_nil nonempty, isOpen]
      rw [pieces.eq_3 char rest unpaired, if_neg goes_on, map_written_modifyHead, induction,
        same_end, split_eq]
      split <;> rfl

example : (pieces ['a', '\r', '\n', '\u2028']).map Line.written =
    [['a', '\r', '\n'], ['\u2028'], []] := by
  decide

/-- A terminator, alone or as a pair. -/
inductive IsEnding : Text → Prop where
  | pair : IsEnding ['\r', '\n']
  | single {char : Char} (ends : isTerminator char = true) : IsEnding [char]

/-- A piece that holds no terminator. -/
def Line.IsPlain (line : Line) : Prop := ∀ char ∈ line.body, isTerminator char = false

/-- Pieces that hold no terminators, each with a terminator behind it but the last one. -/
inductive Parted : List Line → Prop where
  | last {line : Line} (plain : line.IsPlain) (unended : line.ending = []) : Parted [line]
  | cons {line : Line} {rest : List Line} (plain : line.IsPlain) (ended : IsEnding line.ending)
      (parted : Parted rest) : Parted (line :: rest)

theorem IsEnding.ne_nil {text : Text} (ending : IsEnding text) : text ≠ [] := by
  cases ending <;> exact List.cons_ne_nil _ _

namespace Parted

/-- A character that ends no line belongs to the first piece. -/
theorem modifyHead {lines : List Line} (parted : Parted lines) {char : Char}
    (goes_on : isTerminator char = false) : Parted (lines.modifyHead (Line.cons char)) := by
  have longer {line : Line} (plain : line.IsPlain) : (line.cons char).IsPlain :=
    List.forall_mem_cons.2 ⟨goes_on, plain⟩
  cases parted with
  | last plain unended => exact .last (longer plain) unended
  | cons plain ended parted => exact .cons (longer plain) ended parted

/-- A terminator is behind each piece that another one follows, and none behind the last one. -/
theorem of_append_cons {before after : List Line} {line : Line}
    (parted : Parted (before ++ line :: after)) :
    line.IsPlain ∧ (after = [] ∧ line.ending = [] ∨ after ≠ [] ∧ IsEnding line.ending) := by
  induction before with
  | nil =>
      cases parted with
      | last plain unended => exact ⟨plain, .inl ⟨rfl, unended⟩⟩
      | cons plain ended parted =>
          refine ⟨plain, .inr ⟨?_, ended⟩⟩
          rintro rfl
          contradiction
  | cons first more induction =>
      generalize rest_eq : more ++ line :: after = rest at parted induction
      rw [List.cons_append, rest_eq] at parted
      cases parted with
      | last plain unended => simp at rest_eq
      | cons plain ended parted => exact induction parted

end Parted

theorem parted_pieces (text : Text) : Parted (pieces text) := by
  fun_induction pieces text with
  | case1 => exact .last (by simp [Line.IsPlain]) rfl
  | case2 rest induction => exact .cons (by simp [Line.IsPlain]) .pair induction
  | case3 char rest unpaired ends induction =>
      exact .cons (by simp [Line.IsPlain]) (.single ends) induction
  | case4 char rest unpaired goes_on induction =>
      exact induction.modifyHead (Bool.not_eq_true _ ▸ goes_on)

theorem eq_of_pieces {text : Text} {before after : List Line} {line : Line}
    (pieces_eq : pieces text = before ++ line :: after) :
    text = written before ++ line.body ++ (line.ending ++ written after) := by
  rw [← written_pieces text, pieces_eq]
  simp [Line.written]

/-- A piece that another one follows has a terminator behind it. -/
theorem isEnding_of_pieces {text : Text} {before after : List Line} {line next : Line}
    (pieces_eq : pieces text = before ++ line :: next :: after) : IsEnding line.ending := by
  have parted := parted_pieces text
  rw [pieces_eq] at parted
  exact (parted.of_append_cons.2.resolve_left fun last => List.cons_ne_nil _ _ last.1).2

/-- Nothing is behind the last piece. -/
theorem ending_of_pieces {text : Text} {before : List Line} {line : Line}
    (pieces_eq : pieces text = before ++ [line]) : line.ending = [] := by
  have parted := parted_pieces text
  rw [pieces_eq] at parted
  exact (parted.of_append_cons.2.resolve_right fun followed => followed.1 rfl).2

/-- A piece holds no terminator. -/
theorem isPlain_of_pieces {text : Text} {before after : List Line} {line : Line}
    (pieces_eq : pieces text = before ++ line :: after) : line.IsPlain := by
  have parted := parted_pieces text
  rw [pieces_eq] at parted
  exact parted.of_append_cons.1

theorem isOpen_eq_false_of_endsOddly {text : Text} (odd : endsOddly text = true) :
    isOpen text = false := by
  cases last_eq : text.getLast? with
  | none => simp [isOpen, last_eq]
  | some last =>
      rw [endsOddly, last_eq] at odd
      simp_all [isOpen]

/-- Behind a terminator that ends the text stands an empty piece. -/
theorem written_eq_nil_of_endsOddly {text : Text} {before : List Line} {line : Line}
    (pieces_eq : pieces text = before ++ [line]) (odd : endsOddly text = true) :
    line.written = [] := by
  have written_eq := map_written_pieces text
  rw [pieces_eq, isOpen_eq_false_of_endsOddly odd, if_neg Bool.false_ne_true, List.map_append,
    List.map_singleton] at written_eq
  exact List.head_eq_of_cons_eq (List.append_inj_right' written_eq rfl)

/-- The table of starts before its last entry is looked at. -/
theorem foldl_starts (starts : List Nat) (first : Nat) (lines : List Text) :
    (lines.foldl (fun (starts : List Nat × Nat) line =>
        (starts.1 ++ [starts.2 + Utf8.size line], starts.2 + Utf8.size line))
      (starts ++ [first], first)).1 = starts ++ begins first (lines ++ [[]]) := by
  induction lines generalizing starts first with
  | nil => rfl
  | cons line rest induction =>
      rw [List.foldl_cons, induction (starts ++ [first]), List.append_assoc]
      rfl

@[simp]
theorem length_begins (first : Nat) (lines : List Text) :
    (begins first lines).length = lines.length := by
  induction lines generalizing first with
  | nil => rfl
  | cons line rest induction => simp [begins, induction]

theorem dropLast_begins (first : Nat) (lines : List Text) (last : Text) :
    (begins first (lines ++ [last])).dropLast = begins first lines := by
  induction lines generalizing first with
  | nil => rfl
  | cons line rest induction =>
      have nonempty : begins (first + Utf8.size line) (rest ++ [last]) ≠ [] := by
        rw [← List.length_pos_iff]
        simp
      rw [List.cons_append, begins, List.dropLast_cons_of_ne_nil nonempty, induction, begins]

/-- The table of starts holds where the pieces of a text start, but not the place behind a last
terminator that is neither a line feed nor a carriage return. -/
theorem starts_eq (text : Text) :
    starts text =
      if endsOddly text then (begins 0 ((pieces text).map Line.written)).dropLast
      else begins 0 ((pieces text).map Line.written) := by
  have folded := foldl_starts [] 0 (split text)
  rw [List.nil_append, List.nil_append] at folded
  rw [starts, folded, map_written_pieces]
  cases last_eq : text.getLast? with
  | none =>
      obtain rfl := List.getLast?_eq_none_iff.1 last_eq
      rfl
  | some last =>
      have split_ne_nil : split text ≠ [] := by
        intro nothing
        rw [← flatten_split text, nothing] at last_eq
        contradiction
      have more : (begins 0 (split text ++ [[]])).length > 1 := by
        have split_pos := List.length_pos_iff.2 split_ne_nil
        rw [length_begins, List.length_append, List.length_singleton]
        omega
      simp only [more, decide_true, Bool.true_and, endsOddly, isOpen, last_eq, Option.any_some]
      cases ends : isTerminator last with
      | true =>
          by_cases feed : last = '\n' <;> by_cases return_eq : last = '\r' <;>
            simp [feed, return_eq]
      | false =>
          have not_feed : last ≠ '\n' := by
            rintro rfl
            contradiction
          have not_return : last ≠ '\r' := by
            rintro rfl
            contradiction
          simp [not_feed, not_return, dropLast_begins]

/-- Where a piece starts, the pieces in front of it end. -/
theorem getElem?_begins (first : Nat) (before after : List Line) (line : Line) :
    (begins first ((before ++ line :: after).map Line.written))[before.length]? =
      some (first + Utf8.size (written before)) := by
  induction before generalizing first with
  | nil => rfl
  | cons front more induction =>
      rw [List.cons_append, List.map_cons, begins, List.length_cons, List.getElem?_cons_succ,
        induction, written_cons, Utf8.size_append, Nat.add_assoc]

/-- Each start has pieces in front of it. -/
theorem exists_of_mem_begins {first start : Nat} {lines : List Line}
    (mem : start ∈ begins first (lines.map Line.written)) :
    ∃ before after, lines = before ++ after ∧ start = first + Utf8.size (written before) := by
  induction lines generalizing first with
  | nil => simp [begins] at mem
  | cons line rest induction =>
      rcases List.mem_cons.1 mem with rfl | mem
      · exact ⟨[], line :: rest, rfl, rfl⟩
      · obtain ⟨before, after, rfl, rfl⟩ := induction mem
        refine ⟨line :: before, after, rfl, ?_⟩
        rw [written_cons, Utf8.size_append, Nat.add_assoc]

/-- Pieces start one behind the other. -/
theorem Parted.pairwise_begins {lines : List Line} (parted : Parted lines) (first : Nat) :
    (begins first (lines.map Line.written)).Pairwise (· < ·) := by
  induction parted generalizing first with
  | last plain unended => exact List.pairwise_singleton _ _
  | @cons line rest plain ended parted induction =>
      refine List.pairwise_cons.2 ⟨fun start mem => ?_, induction _⟩
      have written_pos : 0 < Utf8.size line.written :=
        Utf8.size_pos (List.append_ne_nil_of_right_ne_nil _ ended.ne_nil)
      obtain ⟨before, after, -, rfl⟩ := exists_of_mem_begins mem
      omega

/-- The table of starts ascends. -/
theorem pairwise_starts (text : Text) : (starts text).Pairwise (· < ·) := by
  have ascending := (parted_pieces text).pairwise_begins 0
  rw [starts_eq]
  split
  · exact ascending.sublist (List.dropLast_sublist _)
  · exact ascending

/-- The first line starts at the first octet. -/
theorem exists_starts_eq_cons (text : Text) : ∃ more, starts text = 0 :: more := by
  have folded := foldl_starts [] 0 (split text)
  rw [List.nil_append, List.nil_append] at folded
  obtain ⟨more, begins_eq⟩ : ∃ more, begins 0 (split text ++ [[]]) = 0 :: more := by
    cases split text <;> exact ⟨_, rfl⟩
  rw [starts, folded, begins_eq]
  cases more with
  | nil => exact ⟨[], by simp⟩
  | cons start more =>
      split
      · exact ⟨(start :: more).dropLast, rfl⟩
      · exact ⟨start :: more, rfl⟩

/-- A line starts between two characters. -/
theorem isBoundary_of_mem_starts {text : Text} {start : Nat} (mem : start ∈ starts text) :
    Utf8.IsBoundary text start := by
  have listed : start ∈ begins 0 ((pieces text).map Line.written) := by
    rw [starts_eq] at mem
    split at mem
    · exact List.dropLast_subset _ mem
    · exact mem
  obtain ⟨before, after, split_eq, rfl⟩ := exists_of_mem_begins listed
  refine ⟨written before, written after, ?_, by rw [Nat.zero_add]⟩
  rw [← written_append, ← split_eq, written_pieces]

end Lines
end ProseCheck
