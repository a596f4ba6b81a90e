/-!
# Texts

A text is a list of characters, so every offset into it counts characters.  Names, messages and
language codes, which nobody indexes, stay strings.
-/

namespace ProseCheck

/-- Prose and markup as a list of characters; offsets count characters. -/
abbrev Text := List Char

namespace Text

/-- The text with `char` cut from its right end as often as it stands there. -/
def dropRight (char : Char) (text : Text) : Text :=
  (text.reverse.dropWhile (· == char)).reverse

/-- The text split at every `separator`; `n` separators give `n + 1` pieces. -/
def splitOn (separator : Char) : Text → List Text
  | [] => [[]]
  | char :: rest =>
    if char = separator then [] :: splitOn separator rest
    else
      match splitOn separator rest with
      | [] => [[char]]
      | piece :: pieces => (char :: piece) :: pieces

/-- What stands before the first occurrence of `word` and what follows it. -/
def cut? (word : Text) : Text → Option (Text × Text)
  | [] => if word.isEmpty then some ([], []) else none
  | char :: rest =>
    if word.isPrefixOf (char :: rest) then some ([], (char :: rest).drop word.length)
    else (cut? word rest).map fun (before, after) => (char :: before, after)

/-- Whether `word` occurs in the text. -/
def includes (word text : Text) : Bool := (cut? word text).isSome

/-- The text without a byte order mark at its start. -/
def dropMark : Text → Text
  | '\uFEFF' :: rest => rest
  | text => text

end Text
end ProseCheck
