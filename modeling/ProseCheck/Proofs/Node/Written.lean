import ProseCheck.Node.Interchange
import ProseCheck.Proofs.Node.Tree
import ProseCheck.Proofs.Validation.Parts

/-!
# Trees that are written and read back

A tree that is written reads as itself exactly if it is no deeper than the levels that it is read
with, and no deeper tree is ever read.  The kinds of what is written are those of what was read,
where a name of no kind has become that of the kind `other`.
-/

namespace ProseCheck

open Validated

theorem Span.isFaithful : IsFaithful Span.read Span.toJson := by
  rintro ⟨file, number⟩
  simp [Span.read, toJson, record, isFaithful_integer number,
    isFaithful_string.nullable (by simp) file]

namespace Node

variable {levels : Nat} {json : Json} {node : Node}

theorem readEach_eq (levels index : Nat) (items : List Json) :
    readEach levels index items = each (readWithin levels) index items := by
  induction items generalizing index with
  | nil => rw [readEach, each]
  | cons item rest induction => rw [readEach, each, induction]

theorem readAll_eq (levels : Nat) : readAll levels = list (readWithin levels) := by
  funext json
  cases json with
  | arr items => rw [readAll, readEach_eq, list]
  | _ => simp [readAll, list]

theorem readWithin_zero (json : Json) : readWithin 0 json = refuse .tooDeep := by
  rw [readWithin]

/-- A node is a record whose children are read with one level less. -/
theorem readWithin_succ (levels : Nat) :
    readWithin (levels + 1) = record fun members =>
      Node.mk
        <$> required members "kind" Kind.read
        <*> optional members "text" [] Validated.text
        <*> optional members "children" [] (list (readWithin levels))
        <*> optional members "span" .detached Span.read := by
  funext json
  cases json with
  | obj members =>
      rw [readWithin, record, ← readAll_eq]
      congr 2
      rw [Validated.optional]
      split <;> simp [*]
  | _ => simp [readWithin, record]

theorem readWithin_succ_eq_valid_iff : readWithin (levels + 1) json = .valid node ↔
    ∃ members, json = .obj members ∧
      required members "kind" Kind.read = .valid node.kind ∧
      Validated.optional members "text" [] Validated.text = .valid node.text ∧
      Validated.optional members "children" [] (list (readWithin levels)) = .valid node.children ∧
      Validated.optional members "span" .detached Span.read = .valid node.span := by
  obtain ⟨kind, text, children, span⟩ := node
  simp [readWithin_succ, record_eq_valid_iff, and_assoc]

theorem toJsonAll_eq_map (nodes : List Node) : toJsonAll nodes = nodes.map toJson := by
  induction nodes with
  | nil => rfl
  | cons node rest induction => rw [toJsonAll, induction, List.map_cons]

theorem toJson_eq (node : Node) : node.toJson =
    .obj [("kind", .str node.kind.name), ("text", .text node.text),
      ("children", .arr (node.children.map toJson)), ("span", node.span.toJson)] := by
  cases node
  rw [toJson, toJsonAll_eq_map]

mutual

/-- Nodes on the longest way down, the node itself being one. -/
def depth : Node → Nat
  | ⟨_, _, children, _⟩ => depthOfAll children + 1

/-- Nodes on the longest way down from one of the nodes. -/
def depthOfAll : List Node → Nat
  | [] => 0
  | node :: rest => max node.depth (depthOfAll rest)

end

theorem depthOfAll_le_iff {nodes : List Node} :
    depthOfAll nodes ≤ levels ↔ ∀ node ∈ nodes, node.depth ≤ levels := by
  induction nodes with
  | nil => simp [depthOfAll]
  | cons node rest induction => rw [depthOfAll, Nat.max_le, induction, List.forall_mem_cons]

theorem depth_le_succ_iff :
    node.depth ≤ levels + 1 ↔ ∀ child ∈ node.children, child.depth ≤ levels := by
  cases node
  rw [depth, Nat.add_le_add_iff_right, depthOfAll_le_iff]

theorem depth_pos : 0 < node.depth := by
  cases node
  exact Nat.succ_pos _

/-- What is read is no deeper than the levels. -/
theorem depth_le_of_readWithin (read_eq : readWithin levels json = .valid node) :
    node.depth ≤ levels := by
  induction levels generalizing json node with
  | zero =>
      rw [readWithin_zero] at read_eq
      contradiction
  | succ levels induction =>
      obtain ⟨members, -, -, -, children_eq, -⟩ := readWithin_succ_eq_valid_iff.1 read_eq
      rw [depth_le_succ_iff]
      rcases optional_eq_valid_iff.1 children_eq with ⟨listed, -, listed_eq⟩ | ⟨-, childless⟩
      · intro child mem
        obtain ⟨item, child_eq⟩ := exists_of_mem_list listed_eq child mem
        exact induction child_eq
      · simp [← childless]

theorem readWithin_toJson (fits : node.depth ≤ levels) :
    readWithin levels node.toJson = .valid node := by
  induction levels generalizing node with
  | zero => exact absurd fits (Nat.not_le.2 depth_pos)
  | succ levels induction =>
      have children_eq : list (readWithin levels) (.arr (node.children.map toJson)) =
          .valid node.children :=
        list_map_eq_valid fun child mem => induction (depth_le_succ_iff.1 fits child mem)
      rw [readWithin_succ_eq_valid_iff, toJson_eq]
      simp [children_eq, Kind.read, isFaithful_text node.text, Span.isFaithful node.span]

/-- A tree that is written is read back exactly if it is no deeper than the levels. -/
theorem readWithin_toJson_iff : readWithin levels node.toJson = .valid node ↔ node.depth ≤ levels :=
  ⟨depth_le_of_readWithin, readWithin_toJson⟩

theorem isNormalForm : IsNormalForm (readWithin levels) toJson :=
  fun _ _ read_eq => readWithin_toJson (depth_le_of_readWithin read_eq)

end Node

/-! ## Kinds -/

namespace Kind

/-- What stands for a kind and what is written for it: a name of a kind stays, and anything else
becomes the name of the kind `other`. -/
inductive Normalises : Json → Json → Prop
  | known (kind : Kind) : Normalises (.str kind.name) (.str kind.name)
  | unknown {written : Json} (foreign : ∀ kind : Kind, written ≠ .str kind.name) :
      Normalises written (.str "Other")

theorem eq_other_of_foreign {written : Json} {kind : Kind}
    (foreign : ∀ kind : Kind, written ≠ .str kind.name) (read_eq : read written = .valid kind) :
    kind = .other := by
  cases written with
  | str name =>
      have absent : all.find? (fun kind => kind.name == name) = none := by
        rw [List.find?_eq_none]
        intro kind _ same
        exact foreign kind (congrArg Json.str (beq_iff_eq.1 same).symm)
      rw [read, ofName, absent] at read_eq
      exact (Validated.valid.inj read_eq).symm
  | _ => exact (Validated.valid.inj read_eq).symm

theorem normalises_of_read {written : Json} {kind : Kind} (read_eq : read written = .valid kind) :
    Normalises written (.str kind.name) := by
  by_cases known : ∃ kind : Kind, written = .str kind.name
  · obtain ⟨same, rfl⟩ := known
    rw [read, ofName_name] at read_eq
    rw [← Validated.valid.inj read_eq]
    exact .known same
  · have foreign := not_exists.1 known
    rw [eq_other_of_foreign foreign read_eq]
    exact .unknown foreign

end Kind

namespace Json

/-- The child at a place of a node. -/
def childAt? (json : Json) (place : Nat) : Option Json :=
  match json.member? "children" with
  | some (.arr items) => items[place]?
  | _ => none

/-- What stands for the kind of a node under this one, where each step of the path is the place of
a child. -/
def kind? (json : Json) : List Nat → Option Json
  | [] => json.member? "kind"
  | place :: path => (json.childAt? place).bind fun child => child.kind? path

end Json

namespace Node

variable {levels : Nat} {json : Json} {node : Node}

theorem childAt?_toJson (node : Node) (place : Nat) :
    node.toJson.childAt? place = node.children[place]?.map toJson := by
  simp [toJson_eq, Json.childAt?, Json.member?, Json.Members.get?, List.lookup_cons]

/-- A place of a node has a child if there is one in what it was read from, and that is what the
child was read from. -/
theorem childAt?_of_readWithin (read_eq : readWithin (levels + 1) json = .valid node)
    (place : Nat) :
    Option.Rel (fun item child => readWithin levels item = .valid child) (json.childAt? place)
      node.children[place]? := by
  obtain ⟨members, rfl, -, -, children_eq, -⟩ := readWithin_succ_eq_valid_iff.1 read_eq
  rcases optional_eq_valid_iff.1 children_eq with ⟨listed, found, listed_eq⟩ | ⟨absent, childless⟩
  · obtain ⟨items, rfl, -⟩ := list_eq_valid_iff.1 listed_eq
    simpa [Json.childAt?, Json.member?, found] using getElem?_of_list listed_eq place
  · simp [Json.childAt?, Json.member?, absent, ← childless]

/-- The kinds of a tree that is written are those of what it was read from, normalised. -/
theorem kind?_of_readWithin (read_eq : readWithin levels json = .valid node) (path : List Nat) :
    Option.Rel Kind.Normalises (json.kind? path) (node.toJson.kind? path) := by
  -- each step of the path takes one of the levels, so these carry the induction
  induction levels generalizing json node path with
  | zero =>
      rw [readWithin_zero] at read_eq
      contradiction
  | succ levels induction =>
      cases path with
      | nil =>
          obtain ⟨members, rfl, kind_eq, -⟩ := readWithin_succ_eq_valid_iff.1 read_eq
          obtain ⟨written, found, written_eq⟩ := required_eq_valid_iff.1 kind_eq
          have shown : node.toJson.kind? [] = some (.str node.kind.name) := by
            simp [Json.kind?, toJson_eq, Json.member?, Json.Members.get?]
          rw [shown, Json.kind?, Json.member?, found]
          exact .some (Kind.normalises_of_read written_eq)
      | cons place path =>
          have below := childAt?_of_readWithin read_eq place
          rw [Json.kind?, Json.kind?, childAt?_toJson]
          generalize json.childAt? place = item, node.children[place]? = child at below ⊢
          cases below with
          | none => exact .none
          | some child_eq => exact induction child_eq path

end Node
end ProseCheck
