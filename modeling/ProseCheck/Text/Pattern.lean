import ProseCheck.Text.Basic

/-!
# Patterns

A pattern takes a beginning of a text and hands the rest on.  Where the rest is refused, it tries
its next beginning: a repetition tries the most rounds first.  So the first beginning is taken that
all that follows agrees with.
-/

namespace ProseCheck

/-- What a pattern takes of a text, where `next` says what is taken of the rest, or refuses it. -/
abbrev Pattern := (Text → Option Text) → Text → Option Text

namespace Pattern

/-- One character of a class. -/
def one (admits : Char → Bool) : Pattern
  | _, [] => none
  | next, char :: rest => if admits char then (next rest).map (char :: ·) else none

/-- One pattern behind another. -/
def andThen (first second : Pattern) : Pattern := fun next => first (second next)

/-- As many rounds of a pattern as possible, but no more than the clock has characters. -/
def upTo (pattern : Pattern) : Text → Pattern
  | [], next, text => next text
  | _ :: clock, next, text => (pattern (pattern.upTo clock next) text).or (next text)

/-- As many rounds as possible of a pattern that takes a character in each. -/
def many (pattern : Pattern) : Pattern := fun next text => pattern.upTo text next text

/-- As many rounds as possible, and at least one. -/
def several (pattern : Pattern) : Pattern := pattern.andThen pattern.many

/-- The beginning of a text that a pattern takes. -/
def take? (pattern : Pattern) (text : Text) : Option Text := pattern (fun _ => some []) text

section

variable {admits : Char → Bool} {next : Text → Option Text} {text : Text}

/-- A repeated class takes all its characters where the rest behind them is not refused, and also
where every rest that begins with one of them is. -/
theorem upTo_one {clock : Text} (enough : text.length ≤ clock.length)
    (settled : (next (text.dropWhile admits)).isSome ∨
      ∀ char rest, admits char = true → next (char :: rest) = none) :
    (one admits).upTo clock next text =
      (next (text.dropWhile admits)).map (text.takeWhile admits ++ ·) := by
  induction text generalizing clock with
  | nil =>
      cases clock with
      | nil => simp [upTo]
      | cons tick clock => simp [upTo, one]
  | cons char rest induction =>
      cases clock with
      | nil => simp at enough
      | cons tick clock =>
          rw [upTo, one]
          cases admitted : admits char with
          | false => simp [admitted]
          | true =>
              have enough_rest : rest.length ≤ clock.length := by simpa using enough
              rw [List.dropWhile_cons_of_pos admitted] at settled
              rw [if_pos rfl, induction enough_rest settled,
                List.dropWhile_cons_of_pos admitted, List.takeWhile_cons_of_pos admitted]
              rcases settled with taken | refused
              · obtain ⟨behind, behind_eq⟩ := Option.isSome_iff_exists.1 taken
                simp [behind_eq]
              · rw [refused char rest admitted, Option.or_none, Option.map_map]
                rfl

/-- A class that is repeated at least once takes all its characters, if there are any. -/
theorem take?_several_one (admits : Char → Bool) (text : Text) :
    (several (one admits)).take? text =
      if text.takeWhile admits = [] then none else some (text.takeWhile admits) := by
  cases text with
  | nil => rfl
  | cons char rest =>
      rw [take?, several, andThen, one, many, upTo_one (Nat.le_refl _) (.inl rfl)]
      cases admitted : admits char <;> simp [admitted]

end

end Pattern
end ProseCheck
