import ProseCheck.Text.Basic

/-!
# Templates

A template is a text with references `${name}` and `${name:-fallback}`.  Filling it in puts the
value of the name in place of a reference, or else the fallback, or else nothing.  A dollar sign
that starts no reference stands for itself.
-/

namespace ProseCheck

/-- A reference in a template. -/
structure Reference where
  /-- Name whose value is meant. -/
  name : Text
  /-- What is meant where the name is unknown. -/
  fallback : Text

namespace Reference

/-- Reads a fallback up to the closing brace. -/
def closed? (name fallback : Text) : Text → Option (Reference × Text)
  | [] => none
  | '\x7d' :: rest => some (⟨name.reverse, fallback.reverse⟩, rest)
  | char :: rest => closed? name (char :: fallback) rest

/-- Reads a reference from what follows its opening brace; the name so far is reversed. -/
def read? (name : Text) : Text → Option (Reference × Text)
  | [] => none
  | '\x7d' :: rest => some (⟨name.reverse, []⟩, rest)
  | ':' :: rest =>
    match rest with
    | '-' :: rest => closed? name [] rest
    | _ => none
  | char :: rest => read? (char :: name) rest

/-- What a reference stands for, with values given to names; a name without a value stands for
nothing. -/
def value (lookup : Text → Option (Option Text)) (reference : Reference) : Text :=
  match lookup reference.name with
  | some found => found.getD []
  | none => reference.fallback

theorem length_of_closed? {name fallback text after : Text} {reference : Reference}
    (found : closed? name fallback text = some (reference, after)) :
    after.length ≤ text.length := by
  induction text generalizing fallback with
  | nil => simp [closed?] at found
  | cons char rest ih =>
    unfold closed? at found
    split at found
    · simp at *
    · simp_all
    · rename_i equation
      cases equation
      exact Nat.le_succ_of_le (ih found)

theorem length_of_read? {name text after : Text} {reference : Reference}
    (found : read? name text = some (reference, after)) : after.length ≤ text.length := by
  induction text generalizing name with
  | nil => simp [read?] at found
  | cons char rest ih =>
    unfold read? at found
    split at found
    · simp at *
    · simp_all
    · rename_i equation
      cases equation
      split at found
      · have := length_of_closed? found
        simp at *
        omega
      · simp at found
    · rename_i equation
      cases equation
      exact Nat.le_succ_of_le (ih found)

end Reference

namespace Template

/-- The template with a value in place of each reference. -/
def fill (lookup : Text → Option (Option Text)) : Text → Text
  | [] => []
  | '$' :: '\x7b' :: rest =>
    match found : Reference.read? [] rest with
    | some (reference, after) =>
      have := Reference.length_of_read? found
      reference.value lookup ++ fill lookup after
    | none => '$' :: '\x7b' :: fill lookup rest
  | char :: rest => char :: fill lookup rest
termination_by text => text.length
decreasing_by all_goals grind

end Template
end ProseCheck
