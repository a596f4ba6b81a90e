import ProseCheck.Node.Kind
import ProseCheck.Text.Basic

/-!
# Nodes

A parsed document is a tree.  Leaves carry text; a node with children stands for the text of its
leaves in order, whatever text it carries itself.
-/

namespace ProseCheck

/-- Name of a file. -/
abbrev FileId := String

/-- Identity of a node: its file and its number there.  Without a file it is detached. -/
structure Span where
  /-- File of the node. -/
  file : Option FileId
  /-- Number of the node in its file. -/
  number : Int
deriving DecidableEq, Repr, Inhabited

namespace Span

/-- The span of no node. -/
def detached : Span := ⟨none, 0⟩

/-- Whether the span belongs to no file. -/
def isDetached (span : Span) : Bool := span.file.isNone

end Span

/-- A node of a document. -/
structure Node where
  /-- Kind of the node. -/
  kind : Kind
  /-- Text of a leaf. -/
  text : Text
  /-- Children in order. -/
  children : List Node
  /-- Identity of the node. -/
  span : Span
deriving Repr, Inhabited

namespace Node

/-- A node without children. -/
def leaf (kind : Kind) (text : Text) : Node := ⟨kind, text, [], .detached⟩

/-- A node with children. -/
def inner (kind : Kind) (children : List Node) : Node := ⟨kind, [], children, .detached⟩

/-- Whether the node has no children. -/
def isLeaf (node : Node) : Bool := node.children.isEmpty

mutual

/-- Leaves under a node, in order; a leaf is its own. -/
def leaves : Node → List Node
  | ⟨kind, text, [], span⟩ => [⟨kind, text, [], span⟩]
  | ⟨_, _, child :: children, _⟩ => child.leaves ++ leavesOfAll children

/-- Leaves under nodes, in order. -/
def leavesOfAll : List Node → List Node
  | [] => []
  | node :: rest => node.leaves ++ leavesOfAll rest

end

/-- Text that a node stands for. -/
def fullText (node : Node) : Text := node.leaves.flatMap Node.text

mutual

/-- The node and all nodes under it, parents first. -/
def preorder : Node → List Node
  | ⟨kind, text, children, span⟩ => ⟨kind, text, children, span⟩ :: preorderOfAll children

/-- All nodes of some trees, parents first. -/
def preorderOfAll : List Node → List Node
  | [] => []
  | node :: rest => node.preorder ++ preorderOfAll rest

end

/-- Leaf at the left end of a node. -/
def leftmost : Node → Node
  | ⟨kind, text, [], span⟩ => ⟨kind, text, [], span⟩
  | ⟨_, _, child :: _, _⟩ => child.leftmost

/-- Name of what a call invokes: for a field access the last identifier, else the leftmost
token; none for a node that is no call, or when that token is empty. -/
def callee? (node : Node) : Option String :=
  match node.kind, node.children with
  | .funcCall, callee :: _ =>
    let identifiers :=
      if callee.kind = .fieldAccess then callee.leaves.filter fun leaf => leaf.kind = .ident else []
    match identifiers.getLast? with
    | some identifier => some (String.ofList identifier.text)
    | none =>
      if callee.leftmost.text.isEmpty then none else some (String.ofList callee.leftmost.text)
  | _, _ => none

/-- Name of a named argument: its first identifier, or nothing. -/
def argumentName (node : Node) : String :=
  match node.children.find? fun child => child.kind = .ident with
  | some identifier => String.ofList identifier.text
  | none => ""

end Node
end ProseCheck
