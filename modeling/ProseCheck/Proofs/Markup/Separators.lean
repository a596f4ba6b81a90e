import ProseCheck.Markup.Conversion
import ProseCheck.Proofs.Chunk.Separator

/-!
# Separators of rules

Rules put separators around calls and arguments and do nothing else.  But for separators, then, a
conversion is the same under every table of rules, and so are the characters with a source that
its chunks hold, wherever the separators shift the ends of the chunks.
-/

namespace ProseCheck
namespace Markup

open Event

@[simp]
theorem unseparated_separateBy (separator : Text) : unseparated (separateBy separator) = [] := by
  unfold separateBy
  split <;> rfl

mutual

/-- But for separators, the events of a node are the same under all rules. -/
theorem unseparated_events (rules other : Rules) (position : Position) :
    ∀ node : Node,
      unseparated (events rules position node) = unseparated (events other position node)
  | ⟨kind, text, children, span⟩ => by
    have below (position : Position) := unseparated_eventsOfAll rules other position children
    have unless_leaf (position : Position) :
        unseparated (if children.isEmpty then [hide text] else
            eventsOfAll rules position children) =
          unseparated (if children.isEmpty then [hide text] else
            eventsOfAll other position children) := by
      split
      · rfl
      · exact below position
    cases kind
    case markup => exact below .prose
    case strong | emph => exact unless_leaf position
    case text | smartQuote | space | parbreak | linebreak | shorthand | escape =>
      cases position <;> rfl
    case heading | listItem | enumItem | termItem =>
      simp only [events]
      rw [unseparated_cons, unseparated_append, unseparated_itemEvents rules other _ false children,
        ← unseparated_append, ← unseparated_cons]
    case equation | ref => rfl
    case funcCall =>
      have called (afterArgument otherAfter : Text) :=
        unseparated_callEvents rules other afterArgument otherAfter children
      simp only [events]
      split
      · split
        · simp only [unseparated_append, unseparated_separateBy, List.nil_append, List.append_nil]
          exact called _ _
        · simp only [unseparated_append, unseparated_separateBy, List.nil_append, List.append_nil]
          exact called _ _
      · split
        · simp only [unseparated_append, unseparated_separateBy, List.nil_append, List.append_nil]
          exact called _ _
        · exact called _ _
    case contentBlock => exact unseparated_contentEvents rules other children
    all_goals exact unless_leaf .hidden

theorem unseparated_eventsOfAll (rules other : Rules) (position : Position) :
    ∀ nodes : List Node,
      unseparated (eventsOfAll rules position nodes) =
        unseparated (eventsOfAll other position nodes)
  | [] => rfl
  | node :: rest => by
    rw [eventsOfAll, eventsOfAll, unseparated_append, unseparated_append,
      unseparated_events rules other position node,
      unseparated_eventsOfAll rules other position rest]

theorem unseparated_itemEvents (rules other : Rules) (item : Kind) (afterMarker : Bool) :
    ∀ nodes : List Node,
      unseparated (itemEvents rules item afterMarker nodes) =
        unseparated (itemEvents other item afterMarker nodes)
  | [] => rfl
  | ⟨kind, text, children, span⟩ :: rest => by
    have later (afterMarker : Bool) :=
      unseparated_itemEvents rules other item afterMarker rest
    rw [itemEvents, itemEvents]
    split
    · rw [unseparated_cons, later true, ← unseparated_cons]
    · split
      · rw [unseparated_cons, later false, ← unseparated_cons]
      · split
        · rw [unseparated_cons, later false, ← unseparated_cons]
        · rw [unseparated_append, unseparated_append, later false,
            unseparated_events rules other .prose ⟨kind, text, children, span⟩]

theorem unseparated_callEvents (rules other : Rules) (afterArgument otherAfter : Text) :
    ∀ nodes : List Node,
      unseparated (callEvents rules afterArgument nodes) =
        unseparated (callEvents other otherAfter nodes)
  | [] => rfl
  | ⟨kind, text, children, span⟩ :: rest => by
    rw [callEvents, callEvents, unseparated_append, unseparated_append,
      unseparated_callEvents rules other afterArgument otherAfter rest]
    split
    · rw [unseparated_argumentEvents rules other afterArgument otherAfter children]
    · rw [unseparated_events rules other .hidden ⟨kind, text, children, span⟩]

theorem unseparated_argumentEvents (rules other : Rules) (afterArgument otherAfter : Text) :
    ∀ nodes : List Node,
      unseparated (argumentEvents rules afterArgument nodes) =
        unseparated (argumentEvents other otherAfter nodes)
  | [] => rfl
  | argument :: rest => by
    have same := unseparated_events rules other .hidden argument
    rw [argumentEvents, argumentEvents, unseparated_append, unseparated_append,
      unseparated_argumentEvents rules other afterArgument otherAfter rest]
    congr 1
    split
    · split <;> split <;>
        simp only [unseparated_append, unseparated_separateBy, List.nil_append, List.append_nil,
          same]
    · simp only [unseparated_append, unseparated_separateBy, List.append_nil, same]
    · exact same

theorem unseparated_contentEvents (rules other : Rules) :
    ∀ nodes : List Node,
      unseparated (contentEvents rules nodes) = unseparated (contentEvents other nodes)
  | [] => rfl
  | ⟨kind, text, children, span⟩ :: rest => by
    rw [contentEvents, contentEvents, unseparated_append, unseparated_append,
      unseparated_contentEvents rules other rest,
      unseparated_events rules other _ ⟨kind, text, children, span⟩]

end

/-- What a conversion owns is the same under all rules. -/
theorem owned_events (rules other : Rules) (interest : Option FileId) (language : String)
    (tree : Node) :
    owned interest language (events rules .prose tree) =
      owned interest language (events other .prose tree) := by
  rw [← owned_unseparated, unseparated_events rules other, owned_unseparated]

/-- Rules and limits neither lose nor alter prose.  The characters of the file of interest, each
with its origin, are the same in the chunks of a tree under all rules and limits; so are all the
characters with a source in the finished chunks, those included that hold none of that file. -/
theorem owned_convert_of_rules (rules other : Rules) (limit size : Int) (interest : Option FileId)
    (language : String) (tree : Node) :
    (convert rules limit interest language tree).flatMap (Chunk.owned interest) =
        (convert other size interest language tree).flatMap (Chunk.owned interest) ∧
      (Collector.finished limit language (events rules .prose tree)).flatMap (Chunk.owned none) =
        (Collector.finished size language (events other .prose tree)).flatMap
          (Chunk.owned none) := by
  constructor
  · rw [convert, convert, Collector.flatMap_owned_collect, Collector.flatMap_owned_collect,
      owned_events rules other]
  · rw [Collector.flatMap_owned_finished, Collector.flatMap_owned_finished,
      owned_events rules other]

end Markup
end ProseCheck
