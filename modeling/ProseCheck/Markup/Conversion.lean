import ProseCheck.Chunk.Collector
import ProseCheck.Markup.Escape
import ProseCheck.Rules

/-!
# Conversion of markup

A tree becomes a sequence of events.  In text position, prose is checked as it stands and blanks,
breaks, shorthands and escapes by what they print; elsewhere every leaf is hidden.  Headings and
list items read as paragraphs, code and mathematics are hidden behind placeholders, and the
contents of calls are text again.  Every leaf ends up in exactly one piece, in document order.
-/

namespace ProseCheck
namespace Markup

/-- Whether a node stands where its text is prose. -/
inductive Position where
  | prose
  | hidden
deriving DecidableEq, Repr

/-- Separator of paragraphs. -/
def paragraph : Text := ['\n', '\n']

/-- What shorthands print; any other shorthand prints itself. -/
def shorthand (written : Text) : Text :=
  if written = ['~'] then ['\u00A0']
  else if written = ['-', '-'] then ['\u2013']
  else if written = ['-', '-', '-'] then ['\u2014']
  else if written = ['.', '.', '.'] then ['\u2026']
  else if written = ['-', '?'] then []
  else written

/-- An event that hides a text. -/
def hide (text : Text) : Event := .piece (.hidden text)

/-- An event that shows the text of a node. -/
def reveal (text : Text) (span : Span) : Event := .piece (.plain text (some span) 0)

/-- An event that shows a substitute for the text of a node. -/
def replace (text substitute : Text) (span : Span) : Event :=
  .piece (.encoded text substitute (some span))

/-- An event that shows a separator which the document does not have. -/
def separate (separator : Text) : Event := .piece (.encoded [] separator none)

/-- The separator of a rule, unless it is empty. -/
def separateBy (separator : Text) : List Event :=
  if separator.isEmpty then [] else [separate separator]

/-- Events of a blank in text position: several lines of blanks read as one line break. -/
def spaceEvent (text : Text) (span : Span) : Event :=
  if text.any (· == '\n') && text != ['\n'] then replace text ['\n'] span else reveal text span

/-- Events of a leaf of prose in text position; a node of another kind is no such leaf. -/
def leafEvents (kind : Kind) (text : Text) (span : Span) : List Event :=
  match kind with
  | .text | .smartQuote => [reveal text span]
  | .space => [spaceEvent text span]
  | .parbreak => [replace text paragraph span, .paragraphBreak]
  | .linebreak => [replace text ['\n'] span]
  | .shorthand => [replace text (shorthand text) span]
  | .escape => [replace text (Escape.decode text) span]
  | _ => []

/-- Events of a node whose contents are hidden behind a placeholder. -/
def placeholderEvents (position : Position) (placeholder : Text) (node : Node) : List Event :=
  match position with
  | .prose => [replace [] placeholder node.span, hide node.fullText]
  | .hidden => [hide node.fullText]

mutual

/-- Events of a node. -/
def events (rules : Rules) (position : Position) : Node → List Event
  | ⟨kind, text, children, span⟩ =>
    match kind with
    | .markup => eventsOfAll rules .prose children
    | .text | .smartQuote | .space | .parbreak | .linebreak | .shorthand | .escape =>
      match position with
      | .prose => leafEvents kind text span
      | .hidden => [hide text]
    | .strong | .emph =>
      if children.isEmpty then [hide text] else eventsOfAll rules position children
    | .heading | .listItem | .enumItem | .termItem =>
      separate paragraph :: (itemEvents rules kind false children ++ [separate paragraph])
    | .equation => placeholderEvents position ['0'] ⟨kind, text, children, span⟩
    | .ref => placeholderEvents position ['X'] ⟨kind, text, children, span⟩
    | .funcCall =>
      match rules.function? (Node.callee? ⟨kind, text, children, span⟩) with
      | some rule =>
        separateBy rule.before ++ (callEvents rules rule.afterArgument children
          ++ separateBy rule.after)
      | none => callEvents rules [] children
    | .contentBlock => contentEvents rules children
    | _ => if children.isEmpty then [hide text] else eventsOfAll rules .hidden children

/-- Events of nodes in one position. -/
def eventsOfAll (rules : Rules) (position : Position) : List Node → List Event
  | [] => []
  | node :: rest => events rules position node ++ eventsOfAll rules position rest

/-- Events of the children of a heading or list item: its marks and the blank after a mark are
hidden, and the colon of a term is prose. -/
def itemEvents (rules : Rules) (item : Kind) (afterMarker : Bool) : List Node → List Event
  | [] => []
  | ⟨kind, text, children, span⟩ :: rest =>
    if kind.isItemMarker then
      hide (Node.fullText ⟨kind, text, children, span⟩) :: itemEvents rules item true rest
    else if afterMarker && kind = .space then hide text :: itemEvents rules item false rest
    else if kind = .colon ∧ item = .termItem then
      reveal text span :: itemEvents rules item false rest
    else
      events rules .prose ⟨kind, text, children, span⟩ ++ itemEvents rules item false rest

/-- Events of the children of a call. -/
def callEvents (rules : Rules) (afterArgument : Text) : List Node → List Event
  | [] => []
  | ⟨kind, text, children, span⟩ :: rest =>
    (if kind = .args then argumentEvents rules afterArgument children
    else events rules .hidden ⟨kind, text, children, span⟩) ++ callEvents rules afterArgument rest

/-- Events of the arguments of a call. -/
def argumentEvents (rules : Rules) (afterArgument : Text) : List Node → List Event
  | [] => []
  | argument :: rest =>
    (match argument.kind with
      | .named =>
        match rules.argument? argument.argumentName with
        | some rule =>
          separateBy rule.before ++ (events rules .hidden argument ++ separateBy rule.after)
        | none => events rules .hidden argument
      | .contentBlock => events rules .hidden argument ++ separateBy afterArgument
      | _ => events rules .hidden argument) ++ argumentEvents rules afterArgument rest

/-- Events of the children of a content block: only its markup is prose. -/
def contentEvents (rules : Rules) : List Node → List Event
  | [] => []
  | ⟨kind, text, children, span⟩ :: rest =>
    events rules (if kind = .markup then .prose else .hidden) ⟨kind, text, children, span⟩
      ++ contentEvents rules rest

end

/-- Chunks of a tree. -/
def convert (rules : Rules) (limit : Int) (interest : Option FileId) (language : String)
    (tree : Node) : List Chunk :=
  Collector.collect limit interest language (events rules .prose tree)

end Markup
end ProseCheck
