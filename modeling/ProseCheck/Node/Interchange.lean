import ProseCheck.Json.Basic
import ProseCheck.Node.Basic
import ProseCheck.Validation.Scalar

/-!
# Nodes in documents

A node is a record with a kind, and perhaps a text, children and a span.  Any value is a kind:
one that names none is the kind `other`.  A node that stands too deep in a tree is refused.

A tree is read as it is shown, but what its leaves spell may be no text, since a string of JSON may
hold half a pair of units.  So what a tree spells is told by code points.
-/

namespace ProseCheck

theorem Json.Members.sizeOf_get? {members : Json.Members} {name : String} {value : Json}
    (found : members.get? name = some value) : sizeOf value < sizeOf members := by
  induction members with
  | nil => simp [Json.Members.get?] at found
  | cons member rest ih =>
    obtain ⟨key, item⟩ := member
    simp only [Json.Members.get?, List.lookup_cons] at found ih
    split at found
    · cases found
      simp only [List.cons.sizeOf_spec, Prod.mk.sizeOf_spec]
      omega
    · have := ih found
      simp only [List.cons.sizeOf_spec, Prod.mk.sizeOf_spec]
      omega

namespace Span

/-- Reads a span. -/
def read : Json → Validated Span :=
  Validated.record fun members =>
    Span.mk
      <$> Validated.optional members "file" none (Validated.nullable Validated.string)
      <*> Validated.optional members "number" 0 Validated.integer

/-- The span as JSON. -/
def toJson (span : Span) : Json :=
  .obj [("file", Json.option .str span.file), ("number", .int span.number)]

end Span

/-- Reads a kind; every value is one. -/
def Kind.read : Json → Validated Kind
  | .str written => .valid (Kind.ofName written)
  | _ => .valid .other

namespace Node

mutual

/-- Reads a node under which nodes may stand to a depth of `levels`, itself the first. -/
def readWithin (levels : Nat) (value : Json) : Validated Node :=
  match levels, value with
  | 0, _ => Validated.refuse .tooDeep
  | levels + 1, .obj members =>
    let children :=
      match _found : Json.Members.get? members "children" with
      | some value => (readAll levels value).below (.field "children")
      | none => .valid []
    Node.mk
      <$> Validated.required members "kind" Kind.read
      <*> Validated.optional members "text" [] Validated.text
      <*> children
      <*> Validated.optional members "span" .detached Span.read
  | _ + 1, _ => Validated.refuse .notRecord
termination_by sizeOf value
decreasing_by
  have := Json.Members.sizeOf_get? _found
  simp only [Json.obj.sizeOf_spec]
  omega

/-- Reads a list of nodes. -/
def readAll (levels : Nat) (value : Json) : Validated (List Node) :=
  match value with
  | .arr items => readEach levels 0 items
  | _ => Validated.refuse .notList
termination_by sizeOf value
decreasing_by
  simp only [Json.arr.sizeOf_spec]
  omega

/-- Reads nodes in order, numbered from `index`. -/
def readEach (levels index : Nat) (items : List Json) : Validated (List Node) :=
  match items with
  | [] => .valid []
  | item :: rest =>
    List.cons <$> (readWithin levels item).below (.item index)
      <*> readEach levels (index + 1) rest
termination_by sizeOf items

end

/-- Reads a tree that stands alone. -/
def read (value : Json) : Validated Node := readWithin Validated.depthLimit value

/-- Reads a tree that is part of something else; that takes a level. -/
def readPart (value : Json) : Validated Node := readWithin (Validated.depthLimit - 1) value

mutual

/-- Code points that the leaves of a tree spell. -/
def spelling (value : Json) : List Nat :=
  match value with
  | .obj members =>
    match _found : Json.Members.get? members "children" with
    | some (.arr (child :: children)) => spelling child ++ spellingOfAll children
    | _ => ((Json.Members.get? members "text").bind Json.codes?).getD []
  | _ => []
termination_by sizeOf value
decreasing_by
  all_goals
    have := Json.Members.sizeOf_get? _found
    simp only [Json.arr.sizeOf_spec, List.cons.sizeOf_spec] at this
    simp only [Json.obj.sizeOf_spec]
    omega

/-- Code points that the leaves of some trees spell. -/
def spellingOfAll (items : List Json) : List Nat :=
  match items with
  | [] => []
  | item :: rest => spelling item ++ spellingOfAll rest
termination_by sizeOf items

end

mutual

/-- The node as JSON. -/
def toJson : Node → Json
  | ⟨kind, text, children, span⟩ =>
    .obj [("kind", .str kind.name), ("text", .text text), ("children", .arr (toJsonAll children)),
      ("span", span.toJson)]

/-- Nodes as JSON. -/
def toJsonAll : List Node → List Json
  | [] => []
  | node :: rest => node.toJson :: toJsonAll rest

end

end Node
end ProseCheck
