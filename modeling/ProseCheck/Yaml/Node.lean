import ProseCheck.Yaml.Spelling
import ProseCheck.Yaml.Token

/-!
# Nodes of YAML

A document is one node: a scalar, a sequence of nodes, or a mapping of pairs of nodes.  Each has a
tag, which says what it stands for; a node without one has the tag that fits its kind, and a plain
scalar the one that fits its spelling.  An alias stands for the node of its anchor.
-/

namespace ProseCheck
namespace Yaml

/-- A node. -/
inductive Node where
  | scalar (tag text : Text)
  | sequence (tag : Text) (items : List Node)
  | mapping (tag : Text) (pairs : List (Node × Node))
deriving Inhabited

namespace Node

/-- Tag of a node. -/
def tag : Node → Text
  | .scalar tag _ => tag
  | .sequence tag _ => tag
  | .mapping tag _ => tag

/-- Anchors with their nodes; a node that is not complete has none yet. -/
abbrev Anchors := List (Text × Option Node)

/-- What is read so far of a document. -/
structure Progress where
  /-- Tokens that follow. -/
  tokens : List Token
  /-- Anchors so far, the last first. -/
  anchors : Anchors
  /-- What handles of tags stand for. -/
  handles : List (Text × Text)
  /-- Number of collections around. -/
  depth : Nat

/-- A reader of nodes. -/
abbrev Build := StateT Progress (Except Trouble)

namespace Build

/-- The next token. -/
def next? : Build (Option Token) := do return (← get).tokens.head?

/-- Passes the next token. -/
def pass : Build Unit := modify fun progress => { progress with tokens := progress.tokens.drop 1 }

/-- Whether a token is next. -/
def sees (token : Token) : Build Bool := do return (← next?) == some token

/-- Whether one of some tokens is next. -/
def seesAny (tokens : List Token) : Build Bool := do return (← next?).any tokens.contains

/-- Passes a token if it is next. -/
def passIf (token : Token) : Build Bool := do
  if ← sees token then
    pass
    return true
  else return false

/-- Requires a token, and passes it. -/
def expect (token : Token) : Build Unit := do
  if !(← passIf token) then throw .malformed

/-- An anchor, if it is next. -/
def anchor? : Build (Option Text) := do
  match ← next? with
  | some (.anchor name) => pass; return some name
  | _ => return none

/-- The tag of a form. -/
def meaning (form : TagForm) : Build Text := do
  match form.handle with
  | none => return form.ending
  | some handle =>
    match (← get).handles.lookup handle with
    | some start => return start ++ form.ending
    | none => throw .malformed

/-- A tag, if it is next. -/
def tag? : Build (Option Text) := do
  match ← next? with
  | some (.tag form) => pass; return some (← meaning form)
  | _ => return none

/-- An anchor and a tag in any order, each of which may be missing. -/
def properties : Build (Option Text × Option Text) := do
  match ← anchor? with
  | some name => return (some name, ← tag?)
  | none =>
    let tag ← tag?
    return (← if tag.isSome then anchor? else pure none, tag)

/-- Sets the node of an anchor. -/
def setAnchor (anchor : Option Text) (node : Option Node) : Build Unit :=
  match anchor with
  | some name => modify fun progress =>
      { progress with anchors := (name, node) :: progress.anchors }
  | none => pure ()

/-- Notes an anchor, which must be new. -/
def openAnchor (anchor : Option Text) : Build Unit := do
  if let some name := anchor then
    if ((← get).anchors.lookup name).isSome then throw .malformed
  setAnchor anchor none

/-- The node of an alias, which must be complete. -/
def aliased (name : Text) : Build Node := do
  match ((← get).anchors.lookup name).join with
  | some node => return node
  | none => throw .malformed

/-- Most collections that may stand in each other. -/
def depthLimit : Nat := 485

/-- Reads the parts of a collection, which stand one level deeper. -/
def within {Parts : Type} (parts : Build Parts) : Build Parts := do
  let depth := (← get).depth
  if depthLimit ≤ depth then throw .tooDeep
  modify fun progress => { progress with depth := depth + 1 }
  let found ← parts
  modify fun progress => { progress with depth }
  return found

/-- A scalar that is not written. -/
def absent : Node := .scalar (Spelling.tagOf []) []

/-- The tag of a collection. -/
def tagOr (standard : Text) (tag : Option Text) : Text :=
  match tag with
  | some tag => if tag == ['!'] then standard else tag
  | none => standard

/-- The tag of a scalar. -/
def scalarTag (tag : Option Text) (text : Text) (isPlain : Bool) : Text :=
  match tag with
  | some tag => if tag == ['!'] then Spelling.tagOf text else tag
  | none => if isPlain then Spelling.tagOf text else Tag.string

/-- Where a node may stand: in a flow, in a block, or in a block as a key or value, where a
sequence need not be indented. -/
inductive Surroundings where
  | flow
  | block
  | member
deriving DecidableEq, Repr

mutual

/-- A node. -/
def node (surroundings : Surroundings) : Nat → Build Node
  | 0 => throw .malformed
  | fuel + 1 => do
    if let some (.alias name) ← next? then
      pass
      return ← aliased name
    let (anchor, tag) ← properties
    openAnchor anchor
    let isBlock := surroundings != .flow
    let found ←
      match ← next? with
      | some (.scalar text isPlain) =>
        pass
        pure (.scalar (scalarTag tag text isPlain) text)
      | some .flowSequenceStart =>
        pass
        pure (.sequence (tagOr Tag.sequence tag) (← within (flowItems true fuel)))
      | some .flowMappingStart =>
        pass
        pure (.mapping (tagOr Tag.mapping tag) (← within (flowPairs true fuel)))
      | some .blockSequenceStart =>
        if !isBlock then throw .malformed
        pass
        pure (.sequence (tagOr Tag.sequence tag) (← within (blockItems fuel)))
      | some .blockMappingStart =>
        if !isBlock then throw .malformed
        pass
        pure (.mapping (tagOr Tag.mapping tag) (← within (blockPairs fuel)))
      | token =>
        if token == some .blockEntry && surroundings == .member then
          pure (.sequence (tagOr Tag.sequence tag) (← within (looseItems fuel)))
        else if anchor.isNone && tag.isNone then throw .malformed
        else pure (.scalar (scalarTag tag [] tag.isNone) [])
    setAnchor anchor (some found)
    return found

/-- A node, or an absent one before some tokens. -/
def nodeUnless (ends : List Token) (surroundings : Surroundings) : Nat → Build Node
  | 0 => throw .malformed
  | fuel + 1 => do
    if ← seesAny ends then return absent else node surroundings fuel

/-- Items of a block sequence up to its end. -/
def blockItems : Nat → Build (List Node)
  | 0 => throw .malformed
  | fuel + 1 => do
    if ← passIf .blockEntry then
      let item ← nodeUnless [.blockEntry, .blockEnd] .block fuel
      return item :: (← blockItems fuel)
    else
      expect .blockEnd
      return []

/-- Items of a sequence that is not indented. -/
def looseItems : Nat → Build (List Node)
  | 0 => throw .malformed
  | fuel + 1 => do
    if ← passIf .blockEntry then
      let item ← nodeUnless [.blockEntry, .key, .value, .blockEnd] .block fuel
      return item :: (← looseItems fuel)
    else return []

/-- Pairs of a block mapping up to its end. -/
def blockPairs : Nat → Build (List (Node × Node))
  | 0 => throw .malformed
  | fuel + 1 => do
    let ends := [Token.key, .value, .blockEnd]
    let hasKey ← passIf .key
    let key ← if hasKey then nodeUnless ends .member fuel else pure absent
    let hasValue ← if hasKey then passIf .value else pure false
    let value ← if hasValue then nodeUnless ends .member fuel else pure absent
    if hasKey then return (key, value) :: (← blockPairs fuel)
    else
      expect .blockEnd
      return []

/-- Items of a flow sequence up to its end; a pair among them is a mapping. -/
def flowItems (isFirst : Bool) : Nat → Build (List Node)
  | 0 => throw .malformed
  | fuel + 1 => do
    if ← passIf .flowSequenceEnd then return []
    if !isFirst then expect .flowEntry
    if ← passIf .key then
      let key ← nodeUnless [.value, .flowEntry, .flowSequenceEnd] .flow fuel
      let value ←
        if ← passIf .value then nodeUnless [.flowEntry, .flowSequenceEnd] .flow fuel
        else pure absent
      return .mapping Tag.mapping [(key, value)] :: (← flowItems false fuel)
    else if ← passIf .flowSequenceEnd then return []
    else
      let item ← node .flow fuel
      return item :: (← flowItems false fuel)

/-- Pairs of a flow mapping up to its end. -/
def flowPairs (isFirst : Bool) : Nat → Build (List (Node × Node))
  | 0 => throw .malformed
  | fuel + 1 => do
    if ← passIf .flowMappingEnd then return []
    if !isFirst then expect .flowEntry
    if ← passIf .key then
      let key ← nodeUnless [.value, .flowEntry, .flowMappingEnd] .flow fuel
      let value ←
        if ← passIf .value then nodeUnless [.flowEntry, .flowMappingEnd] .flow fuel
        else pure absent
      return (key, value) :: (← flowPairs false fuel)
    else if ← passIf .flowMappingEnd then return []
    else
      let key ← node .flow fuel
      return (key, absent) :: (← flowPairs false fuel)

end

/-- Directives up to the start of the document; of the version and of each handle there is at most
one. -/
def directives (hasVersion : Bool) (handles : List (Text × Text)) :
    List Token → Except Trouble (List (Text × Text) × List Token)
  | .directive (.version major) :: rest =>
    if hasVersion || major != 1 then .error .malformed else directives true handles rest
  | .directive (.handle handle meaning) :: rest =>
    if (handles.lookup handle).isSome then .error .malformed
    else directives hasVersion ((handle, meaning) :: handles) rest
  | .directive .other :: rest => directives hasVersion handles rest
  | tokens => .ok (handles, tokens)

/-- What handles stand for where no directive says otherwise. -/
def standardHandles : List (Text × Text) :=
  [(['!'], ['!']), (['!', '!'], Tag.standard [])]

/-- The node of a document; nothing else may follow. -/
def document (fuel : Nat) : Build Node := do
  let node ← node .block fuel
  let rest := (← get).tokens.dropWhile (· == .documentEnd)
  if !rest.isEmpty then throw .malformed
  return node

/-- Whether a token starts a document that says so. -/
def isExplicit : Token → Bool
  | .directive _ | .documentStart => true
  | _ => false

/-- The node of tokens of a document; there is none if there are none. -/
def ofTokens (tokens : List Token) : Except Trouble (Option Node) := do
  let fuel := 4 * tokens.length + 4
  match tokens with
  | [] => return none
  | first :: _ =>
    if isExplicit first then
      let (handles, rest) ← directives false [] tokens
      match rest with
      | .documentStart :: rest =>
        let isEmpty := rest.head?.all fun token => isExplicit token || token == .documentEnd
        if isEmpty then
          if (rest.dropWhile (· == .documentEnd)).isEmpty then return some absent
          else throw .malformed
        else
          return some (← (document fuel).run ⟨rest, [], handles ++ standardHandles, 0⟩).1
      | _ => throw .malformed
    else return some (← (document fuel).run ⟨tokens, [], standardHandles, 0⟩).1

end Build
end Node
end Yaml
end ProseCheck
