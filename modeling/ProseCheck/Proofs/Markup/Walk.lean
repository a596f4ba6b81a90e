import ProseCheck.Markup.Conversion
import ProseCheck.Proofs.Node.Tree

/-!
# The walk through a tree

The conversion of a tree meets its nodes in document order, each in a role that its parent gives
it.  `Walk` describes the events of an agenda of nodes in their roles: one event or two for each
node that is not descended into, with separators anywhere between them.  The main statement is
that the conversion follows such a walk for every table of rules, so that what holds of all walks
holds of the conversion, and no later proof opens its recursion again.
-/

namespace ProseCheck
namespace Markup

/-- Position of a child of a node that is read in a position, or none if the child is hidden with
all its contents. -/
def childPosition? (position : Position) (parent child : Kind) : Option Position :=
  if parent.isProseLeaf || parent.isVeiled then none
  else
    match parent with
    | .markup => some .prose
    | .heading | .listItem | .enumItem | .termItem =>
      if child.isItemMarker then none else some .prose
    | .strong | .emph => some position
    | .contentBlock => some (if child = .markup then .prose else .hidden)
    | _ => some .hidden

/-- How the walk meets a node. -/
inductive Role where
  /-- It is read in a position. -/
  | read (position : Position)
  /-- It is hidden with all its contents. -/
  | veiled
  /-- It is the colon of a term, which is prose. -/
  | colon
deriving DecidableEq, Repr

/-- Role of a child, given whether it stands right after an item marker. -/
def childRole (position : Position) (parent : Kind) (afterMarker : Bool) (child : Kind) : Role :=
  if afterMarker && child = .space then .read .hidden
  else if child = .colon ∧ parent = .termItem then .colon
  else
    match childPosition? position parent child with
    | some position => .read position
    | none => .veiled

/-- Children with their roles. -/
def rolesFrom (position : Position) (parent : Kind) (afterMarker : Bool) :
    List Node → List (Role × Node)
  | [] => []
  | child :: rest =>
    (childRole position parent afterMarker child.kind, child)
      :: rolesFrom position parent (parent.isItem && child.kind.isItemMarker) rest

/-- Children of a node with their roles. -/
def roles (position : Position) (node : Node) : List (Role × Node) :=
  rolesFrom position node.kind false node.children

theorem map_snd_rolesFrom (position : Position) (parent : Kind) (afterMarker : Bool)
    (children : List Node) :
    (rolesFrom position parent afterMarker children).map Prod.snd = children := by
  induction children generalizing afterMarker with
  | nil => rfl
  | cons child rest induction => rw [rolesFrom, List.map_cons, induction]

theorem map_snd_roles (position : Position) (node : Node) :
    (roles position node).map Prod.snd = node.children :=
  map_snd_rolesFrom position node.kind false node.children

/-- The nodes of an agenda, parents first. -/
def agendaNodes (agenda : List (Role × Node)) : List Node :=
  (agenda.map Prod.snd).flatMap Node.preorder

section

variable {role : Role} {position : Position} {node : Node} {agenda : List (Role × Node)}

theorem head_mem_agendaNodes : node ∈ agendaNodes ((role, node) :: agenda) :=
  List.mem_append_left _ node.mem_preorder_self

theorem tail_subset_agendaNodes : agendaNodes agenda ⊆ agendaNodes ((role, node) :: agenda) :=
  List.subset_append_right _ _

theorem roles_subset_agendaNodes :
    agendaNodes (roles position node ++ agenda) ⊆ agendaNodes ((role, node) :: agenda) := by
  rw [agendaNodes, agendaNodes, List.map_append, map_snd_roles, List.map_cons, List.flatMap_cons,
    Node.preorder_eq node, List.flatMap_append, List.cons_append]
  exact List.subset_cons_self _ _

end

/-- Nodes that are all read in the position which a function gives their kind. -/
def readAll (positionOf : Kind → Position) (nodes : List Node) : List (Role × Node) :=
  nodes.map fun node => (.read (positionOf node.kind), node)

/-- The events of an agenda of nodes in their roles, with separators of any rules. -/
inductive Walk : List (Role × Node) → List Event → Prop where
  | done : Walk [] []
  | separator {agenda : List (Role × Node)} {events : List Event} (text : Text) :
      Walk agenda events → Walk agenda (separate text :: events)
  | leaf {agenda : List (Role × Node)} {events : List Event} {node : Node} :
      node.kind.isProseLeaf = true →
      Walk agenda events →
      Walk ((.read .prose, node) :: agenda) (leafEvents node.kind node.text node.span ++ events)
  | conceal {agenda : List (Role × Node)} {events : List Event} {position : Position}
      {node : Node} :
      (node.kind.isProseLeaf = true → position = .hidden) →
      (node.kind.isProseLeaf = false → node.children = []) →
      Walk agenda events →
      Walk ((.read position, node) :: agenda) (hide node.text :: events)
  | colon {agenda : List (Role × Node)} {events : List Event} {node : Node} :
      node.kind = .colon →
      Walk agenda events →
      Walk ((.colon, node) :: agenda) (reveal node.text node.span :: events)
  | veil {agenda : List (Role × Node)} {events : List Event} {node : Node} :
      Walk agenda events →
      Walk ((.veiled, node) :: agenda) (hide node.fullText :: events)
  | placeholder {agenda : List (Role × Node)} {events : List Event} {position : Position}
      {node : Node} (text : Text) :
      node.kind.isVeiled = true →
      Walk agenda events →
      Walk ((.read position, node) :: agenda) (placeholderEvents position text node ++ events)
  | descend {agenda : List (Role × Node)} {events : List Event} {position : Position}
      {node : Node} :
      node.kind.isProseLeaf = false →
      node.kind.isVeiled = false →
      (node.children = [] → node.kind.isContainer = true) →
      Walk (roles position node ++ agenda) events →
      Walk ((.read position, node) :: agenda) events

theorem rolesFrom_eq_readAll {position : Position} {parent : Kind} (no_item : parent.isItem = false)
    {positionOf : Kind → Position}
    (child_position : ∀ child, childPosition? position parent child = some (positionOf child))
    (children : List Node) :
    rolesFrom position parent false children = readAll positionOf children := by
  induction children with
  | nil => rfl
  | cons child rest induction =>
      have no_term : parent ≠ .termItem := by
        rintro rfl
        simp [Kind.isItem] at no_item
      rw [rolesFrom, no_item, Bool.false_and, induction]
      simp [childRole, no_term, child_position, readAll]

theorem childPosition?_of_isItem {position : Position} {item child : Kind}
    (is_item : item.isItem = true) :
    childPosition? position item child = if child.isItemMarker then none else some .prose := by
  revert is_item
  cases item <;> simp [Kind.isItem, Kind.isProseLeaf, Kind.isVeiled, childPosition?]

namespace Walk

variable {agenda : List (Role × Node)} {rest : List Event}

theorem separateBy (separator : Text) (walk : Walk agenda rest) :
    Walk agenda (separateBy separator ++ rest) := by
  unfold Markup.separateBy
  split
  · exact walk
  · exact walk.separator separator

/-- A node whose children are read in positions by their kinds. -/
theorem ofChildren {position : Position} {kind : Kind} {text : Text} {children : List Node}
    {span : Span} (no_leaf : kind.isProseLeaf = false) (no_veil : kind.isVeiled = false)
    (container : children = [] → kind.isContainer = true) (no_item : kind.isItem = false)
    {positionOf : Kind → Position}
    (child_position : ∀ child, childPosition? position kind child = some (positionOf child))
    (walk : Walk (readAll positionOf children ++ agenda) rest) :
    Walk ((.read position, ⟨kind, text, children, span⟩) :: agenda) rest := by
  refine .descend no_leaf no_veil container ?_
  rw [roles, rolesFrom_eq_readAll no_item child_position]
  exact walk

end Walk
mutual

theorem walk_events (rules : Rules) (position : Position) :
    ∀ (node : Node) {agenda : List (Role × Node)} {rest : List Event}, Walk agenda rest →
      Walk ((.read position, node) :: agenda) (events rules position node ++ rest)
  | ⟨kind, text, children, span⟩, agenda, rest, walk => by
    have below (position : Position) :=
      walk_eventsOfAll rules position children walk
    have other (plain : kind.isProseLeaf = false ∧ kind.isVeiled = false ∧ kind.isItem = false)
        (hides : ∀ child, childPosition? position kind child = some .hidden) :
        Walk ((.read position, ⟨kind, text, children, span⟩) :: agenda)
          ((if children.isEmpty then [hide text] else eventsOfAll rules .hidden children)
            ++ rest) := by
      obtain ⟨no_leaf, no_veil, no_item⟩ := plain
      split
      · rename_i childless
        exact .conceal (by simp [no_leaf]) (fun _ => List.isEmpty_iff.1 childless) walk
      · rename_i nonempty
        exact .ofChildren no_leaf no_veil (by simp_all) no_item hides (below .hidden)
    cases kind
    case markup => exact .ofChildren rfl rfl (fun _ => rfl) rfl (fun _ => rfl) (below .prose)
    case strong | emph =>
      simp only [events]
      split
      · rename_i childless
        exact .conceal (by simp [Kind.isProseLeaf]) (fun _ => List.isEmpty_iff.1 childless) walk
      · rename_i nonempty
        exact .ofChildren rfl rfl (by simp_all) rfl (fun _ => rfl) (below position)
    case text | smartQuote | space | parbreak | linebreak | shorthand | escape =>
      cases position
      · exact .leaf rfl walk
      · exact .conceal (fun _ => rfl) (by simp [Kind.isProseLeaf]) walk
    case heading | listItem | enumItem | termItem =>
      simp only [events, List.cons_append, List.append_assoc, List.nil_append]
      exact .separator _
        (.descend rfl rfl (fun _ => rfl) (walk_itemEvents rules rfl children (walk.separator _)))
    case equation | ref => exact .placeholder _ rfl walk
    case funcCall =>
      simp only [events]
      split
      · simp only [List.append_assoc]
        exact .separateBy _ (.ofChildren rfl rfl (fun _ => rfl) rfl (fun _ => rfl)
          (walk_callEvents rules _ children (walk.separateBy _)))
      · exact .ofChildren rfl rfl (fun _ => rfl) rfl (fun _ => rfl)
          (walk_callEvents rules _ children walk)
    case contentBlock =>
      exact .ofChildren rfl rfl (fun _ => rfl) rfl (fun _ => rfl)
        (walk_contentEvents rules children walk)
    all_goals exact other ⟨rfl, rfl, rfl⟩ fun _ => rfl

theorem walk_eventsOfAll (rules : Rules) (position : Position) :
    ∀ (nodes : List Node) {agenda : List (Role × Node)} {rest : List Event}, Walk agenda rest →
      Walk (readAll (fun _ => position) nodes ++ agenda) (eventsOfAll rules position nodes ++ rest)
  | [], _, _, walk => walk
  | node :: nodes, _, _, walk => by
    simp only [eventsOfAll, List.append_assoc]
    exact walk_events rules position node (walk_eventsOfAll rules position nodes walk)

theorem walk_itemEvents (rules : Rules) {position : Position} {item : Kind} {afterMarker : Bool}
    (is_item : item.isItem = true) :
    ∀ (nodes : List Node) {agenda : List (Role × Node)} {rest : List Event}, Walk agenda rest →
      Walk (rolesFrom position item afterMarker nodes ++ agenda)
        (itemEvents rules item afterMarker nodes ++ rest)
  | [], _, _, walk => walk
  | ⟨kind, text, children, span⟩ :: nodes, agenda, rest, walk => by
    have rest_walk (afterMarker : Bool) :
        Walk (rolesFrom position item afterMarker nodes ++ agenda)
          (itemEvents rules item afterMarker nodes ++ rest) :=
      walk_itemEvents rules is_item nodes walk
    rw [itemEvents, rolesFrom, is_item, Bool.true_and, childRole]
    by_cases marker : kind.isItemMarker = true
    · have no_space : kind ≠ .space := by
        rintro rfl
        simp [Kind.isItemMarker] at marker
      have no_colon : kind ≠ .colon := by
        rintro rfl
        simp [Kind.isItemMarker] at marker
      simp only [marker, if_true, no_space, no_colon, decide_false, Bool.and_false,
        Bool.false_eq_true, if_false, false_and, childPosition?_of_isItem is_item]
      exact .veil (rest_walk true)
    · simp only [marker, Bool.false_eq_true, if_false, childPosition?_of_isItem is_item]
      split
      · exact .conceal (fun _ => rfl) (by simp_all [Kind.isProseLeaf]) (rest_walk false)
      · split
        · rename_i term_colon
          exact .colon term_colon.1 (rest_walk false)
        · simp only [List.append_assoc]
          exact walk_events rules .prose ⟨kind, text, children, span⟩ (rest_walk false)

theorem walk_callEvents (rules : Rules) (afterArgument : Text) :
    ∀ (nodes : List Node) {agenda : List (Role × Node)} {rest : List Event}, Walk agenda rest →
      Walk (readAll (fun _ => .hidden) nodes ++ agenda)
        (callEvents rules afterArgument nodes ++ rest)
  | [], _, _, walk => walk
  | ⟨kind, text, children, span⟩ :: nodes, _, _, walk => by
    simp only [callEvents, List.append_assoc]
    have rest_walk := walk_callEvents rules afterArgument nodes walk
    split
    · rename_i is_args
      subst is_args
      exact .ofChildren rfl rfl (fun _ => rfl) rfl (fun _ => rfl)
        (walk_argumentEvents rules afterArgument children rest_walk)
    · exact walk_events rules .hidden ⟨kind, text, children, span⟩ rest_walk

theorem walk_argumentEvents (rules : Rules) (afterArgument : Text) :
    ∀ (nodes : List Node) {agenda : List (Role × Node)} {rest : List Event}, Walk agenda rest →
      Walk (readAll (fun _ => .hidden) nodes ++ agenda)
        (argumentEvents rules afterArgument nodes ++ rest)
  | [], _, _, walk => walk
  | argument :: nodes, _, _, walk => by
    simp only [argumentEvents, List.append_assoc]
    have rest_walk := walk_argumentEvents rules afterArgument nodes walk
    have argument_walk {agenda : List (Role × Node)} {rest : List Event}
        (walk : Walk agenda rest) :=
      walk_events rules .hidden argument walk
    split
    · split
      · simp only [List.append_assoc]
        exact .separateBy _ (argument_walk (rest_walk.separateBy _))
      · exact argument_walk rest_walk
    · simp only [List.append_assoc]
      exact argument_walk (rest_walk.separateBy _)
    · exact argument_walk rest_walk

theorem walk_contentEvents (rules : Rules) :
    ∀ (nodes : List Node) {agenda : List (Role × Node)} {rest : List Event}, Walk agenda rest →
      Walk (readAll (fun kind => if kind = .markup then .prose else .hidden) nodes ++ agenda)
        (contentEvents rules nodes ++ rest)
  | [], _, _, walk => walk
  | ⟨kind, text, children, span⟩ :: nodes, _, _, walk => by
    simp only [contentEvents, List.append_assoc]
    exact walk_events rules _ ⟨kind, text, children, span⟩ (walk_contentEvents rules nodes walk)

end

end Markup
end ProseCheck
