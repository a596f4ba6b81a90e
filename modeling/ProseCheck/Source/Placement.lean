import ProseCheck.Node.Basic
import ProseCheck.Text.Utf8

/-!
# Placing nodes in a file

The nodes of a file are numbered from zero, parents first.  Each stands for a stretch of octets:
the root for the whole file, and the children of a node for neighbouring stretches of its own.
-/

namespace ProseCheck
namespace Node

mutual

/-- Number of nodes of a tree. -/
def count : Node → Nat
  | ⟨_, _, children, _⟩ => 1 + countAll children

/-- Number of nodes of some trees. -/
def countAll : List Node → Nat
  | [] => 0
  | node :: rest => node.count + countAll rest

end

mutual

/-- The tree with spans of a file, numbered from `first`, parents first. -/
def numbered (file : FileId) (first : Nat) : Node → Node
  | ⟨kind, text, children, _⟩ =>
    ⟨kind, text, numberedAll file (first + 1) children, ⟨some file, first⟩⟩

/-- Trees numbered one after the other. -/
def numberedAll (file : FileId) (first : Nat) : List Node → List Node
  | [] => []
  | node :: rest => node.numbered file first :: numberedAll file (first + node.count) rest

end

/-- Number of octets that a node stands for. -/
def size (node : Node) : Nat := Utf8.size node.fullText

end Node

/-- A node with its place in a file. -/
structure Placed where
  /-- The node. -/
  node : Node
  /-- First octet. -/
  start : Nat
  /-- Octet after the last. -/
  stop : Nat
  /-- Nodes above, the nearest first. -/
  above : List Node

namespace Placed

/-- The node and the nodes above it, up to the root. -/
def ancestors (placed : Placed) : List Node := placed.node :: placed.above

end Placed

namespace Node

mutual

/-- A tree that starts at octet `start` below the nodes `above`, parents first. -/
def place (start : Nat) (above : List Node) : Node → List Placed
  | ⟨kind, text, children, span⟩ =>
    ⟨⟨kind, text, children, span⟩, start, start + size ⟨kind, text, children, span⟩, above⟩
      :: placeAll start (⟨kind, text, children, span⟩ :: above) children

/-- Trees placed one after the other. -/
def placeAll (start : Nat) (above : List Node) : List Node → List Placed
  | [] => []
  | node :: rest => node.place start above ++ placeAll (start + node.size) above rest

end

end Node
end ProseCheck
