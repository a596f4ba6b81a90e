import ProseCheck.Yaml.Literal
import ProseCheck.Yaml.Plain
import ProseCheck.Yaml.Tag

/-!
# Tokens of YAML

A document is read as tokens.  In a block the indentation opens and closes collections, and a
colon makes a key of the scalar or flow that stands before it on the same line, so the token of a
key is put in where that began.
-/

namespace ProseCheck
namespace Yaml

/-- A token. -/
inductive Token where
  | directive (directive : Directive)
  | documentStart
  | documentEnd
  | blockSequenceStart
  | blockMappingStart
  | blockEnd
  | flowSequenceStart
  | flowSequenceEnd
  | flowMappingStart
  | flowMappingEnd
  | flowEntry
  | blockEntry
  | key
  | value
  | alias (name : Text)
  | anchor (name : Text)
  | tag (form : TagForm)
  | scalar (text : Text) (isPlain : Bool)
deriving DecidableEq, Repr

/-- What may turn out to be a key. -/
structure KeyStart where
  /-- Number of tokens before. -/
  count : Nat
  /-- Whether nothing else can stand there. -/
  required : Bool
  /-- Where it starts. -/
  place : Cursor
deriving DecidableEq, Repr

/-- Tokens in the making. -/
structure Tokens where
  /-- Tokens so far, the last first. -/
  reversed : List Token
  /-- Column of the innermost block; -1 outside of all. -/
  indent : Int
  /-- Columns of the blocks around it, the innermost first. -/
  outer : List Int
  /-- What may turn out to be a key in each open flow, the innermost first, and last in the
  block around them. -/
  keys : List (Option KeyStart)
  /-- Whether a key may start here. -/
  allowsKey : Bool

namespace Tokens

/-- Before the first token. -/
def start : Tokens := ⟨[], -1, [], [none], true⟩

/-- Whether a flow is open. -/
def inFlow (tokens : Tokens) : Bool := tokens.keys.length > 1

/-- Number of tokens. -/
def count (tokens : Tokens) : Nat := tokens.reversed.length

/-- Adds a token. -/
def add (token : Token) (tokens : Tokens) : Tokens :=
  { tokens with reversed := token :: tokens.reversed }

/-- Puts in a token after the first `count` ones. -/
def putIn (count : Nat) (token : Token) (tokens : Tokens) : Tokens :=
  { tokens with reversed := tokens.reversed.insertIdx (tokens.count - count) token }

/-- Says whether a key may start here. -/
def allowing (allowsKey : Bool) (tokens : Tokens) : Tokens := { tokens with allowsKey }

/-- What may turn out to be a key where the tokens go on. -/
def key? (tokens : Tokens) : Option KeyStart := tokens.keys.head?.join

/-- Sets what may turn out to be a key where the tokens go on. -/
def setKey (key : Option KeyStart) (tokens : Tokens) : Tokens :=
  { tokens with keys := key :: tokens.keys.drop 1 }

/-- Most characters that a key may take with what stands before its colon. -/
def keyLimit : Nat := 1024

/-- Whether what began before can no longer turn out to be a key. -/
def isStale (cursor : Cursor) (key : KeyStart) : Bool :=
  key.place.line != cursor.line || cursor.index - key.place.index > keyLimit

/-- Gives up what can no longer turn out to be a key, unless it must. -/
def dropStale (cursor : Cursor) (tokens : Tokens) : Except Trouble Tokens := do
  let stale := tokens.keys.filter fun key => key.any (isStale cursor)
  if stale.any fun key => key.any KeyStart.required then throw .malformed
  return { tokens with keys := tokens.keys.map (Option.filter fun key => !isStale cursor key) }

/-- Gives up what may turn out to be a key where the tokens go on, unless it must. -/
def dropKey (tokens : Tokens) : Except Trouble Tokens :=
  if tokens.key?.any KeyStart.required then .error .malformed else .ok (tokens.setKey none)

/-- Notes that what starts at the cursor may turn out to be a key. -/
def noteKey (cursor : Cursor) (tokens : Tokens) : Except Trouble Tokens :=
  if tokens.allowsKey then
    (dropKey tokens).map (setKey (some
      ⟨tokens.count, !tokens.inFlow && tokens.indent == cursor.column, cursor⟩))
  else .ok tokens

/-- Closes blocks that are indented more than a column, at most `fuel` of them. -/
def unwindFrom (column : Int) : Nat → Tokens → Tokens
  | 0, tokens => tokens
  | fuel + 1, tokens =>
    if tokens.indent > column then
      unwindFrom column fuel
        ({ tokens with indent := tokens.outer.headD (-1), outer := tokens.outer.drop 1 }.add
          .blockEnd)
    else tokens

/-- Closes blocks that are indented more than a column. -/
def unwind (column : Int) (tokens : Tokens) : Tokens :=
  if tokens.inFlow then tokens else unwindFrom column (tokens.outer.length + 1) tokens

/-- Opens a block at a column, unless one is open there; its token comes after the first `count`
ones. -/
def openBlock (column : Int) (count : Nat) (token : Token) (tokens : Tokens) : Tokens :=
  if !tokens.inFlow && tokens.indent < column then
    { tokens with indent := column, outer := tokens.indent :: tokens.outer }.putIn count token
  else tokens

/-- Closes all blocks and gives up keys, before a directive or a mark between documents. -/
def closeAll (tokens : Tokens) : Except Trouble Tokens :=
  (dropKey (tokens.unwind (-1))).map (allowing false)

/-- Opens a flow. -/
def openFlow (cursor : Cursor) (token : Token) (tokens : Tokens) : Except Trouble Tokens := do
  let tokens ← noteKey cursor tokens
  return { tokens with keys := none :: tokens.keys, allowsKey := true }.add token

/-- Closes a flow. -/
def closeFlow (token : Token) (tokens : Tokens) : Except Trouble Tokens := do
  let tokens ← dropKey tokens
  if !tokens.inFlow then throw .malformed
  return { tokens with keys := tokens.keys.drop 1, allowsKey := false }.add token

/-- An entry of a block sequence, or the key of a mapping after a question mark: it needs a place
where a key may start, and opens a block. -/
def enter (cursor : Cursor) (opening token : Token) (allowsKey : Bool) (tokens : Tokens) :
    Except Trouble Tokens := do
  if !tokens.inFlow && !tokens.allowsKey then throw .malformed
  let tokens ← dropKey ((tokens.openBlock cursor.column tokens.count opening).allowing allowsKey)
  return tokens.add token

/-- A value after a colon: what began before as a possible key is one. -/
def addValue (cursor : Cursor) (tokens : Tokens) : Except Trouble Tokens :=
  match tokens.key? with
  | some key =>
    let tokens := (tokens.setKey none).putIn key.count .key
    .ok (((tokens.openBlock key.place.column key.count .blockMappingStart).allowing false).add
      .value)
  | none => tokens.enter cursor .blockMappingStart .value (!tokens.inFlow)

/-- What the next character starts. -/
inductive Start where
  | ending
  | directive
  | mark (token : Token)
  | openFlow (token : Token)
  | closeFlow (token : Token)
  | flowEntry
  | blockEntry
  | key
  | value
  | alias
  | anchor
  | tag
  | block (isFolded : Bool)
  | quoted
  | plain
  | nothing

/-- What the next characters start. -/
def startAt (inFlow : Bool) (cursor : Cursor) : Start :=
  let char := cursor.peek 0
  let next := cursor.peek 1
  if char == endMark then .ending
  else if char == '%' && cursor.column == 0 then .directive
  else if cursor.column == 0 && cursor.isAtMarks '-' then .mark .documentStart
  else if cursor.column == 0 && cursor.isAtMarks '.' then .mark .documentEnd
  else if char == '[' then .openFlow .flowSequenceStart
  else if char == '{' then .openFlow .flowMappingStart
  else if char == ']' then .closeFlow .flowSequenceEnd
  else if char == '}' then .closeFlow .flowMappingEnd
  else if char == ',' then .flowEntry
  else if char == '-' && isGap next then .blockEntry
  else if char == '?' && (inFlow || isGap next) then .key
  else if char == ':' && (inFlow || isGap next) then .value
  else if char == '*' then .alias
  else if char == '&' then .anchor
  else if char == '!' then .tag
  else if char == '|' && !inFlow then .block false
  else if char == '>' && !inFlow then .block true
  else if char == '\x27' || char == '"' then .quoted
  else if Plain.startsWith inFlow char next then .plain
  else .nothing

/-- Passes spaces, comments and line breaks up to the next token. -/
def skipToNext : Nat → Tokens → Scan Tokens
  | 0, tokens => pure tokens
  | fuel + 1, tokens => do
    Scan.skipWhile (· == ' ')
    if (← Scan.peek) == '#' then Scan.skipWhile fun char => !isLineEnd char
    if (← Scan.lineBreak).isEmpty then return tokens
    skipToNext fuel (if tokens.inFlow then tokens else tokens.allowing true)

/-- Adds a token that a reader gives, of what may turn out to be a key. -/
def addNoted (cursor : Cursor) (read : Scan Token) (tokens : Tokens) : Scan Tokens := do
  let tokens ← tokens.noteKey cursor
  return (tokens.allowing false).add (← read)

/-- Adds the tokens that the next characters start; none if the document ends there. -/
def step (tokens : Tokens) : Scan (Option Tokens) := do
  let tokens ← skipToNext (← Scan.fuel) tokens
  let cursor ← get
  let tokens := (← tokens.dropStale cursor).unwind cursor.column
  let start := startAt tokens.inFlow cursor
  match start with
  | .ending => return none
  | .directive =>
    let tokens ← tokens.closeAll
    return some (tokens.add (.directive (← Scan.directive)))
  | .mark token => do
    Scan.skip 3
    return some ((← tokens.closeAll).add token)
  | .openFlow token => do
    Scan.skip 1
    return some (← tokens.openFlow cursor token)
  | .closeFlow token => do
    Scan.skip 1
    return some (← tokens.closeFlow token)
  | .flowEntry => do
    Scan.skip 1
    return some ((← (tokens.allowing true).dropKey).add .flowEntry)
  | .blockEntry => do
    Scan.skip 1
    return some (← tokens.enter cursor .blockSequenceStart .blockEntry true)
  | .key => do
    Scan.skip 1
    return some (← tokens.enter cursor .blockMappingStart .key !tokens.inFlow)
  | .value => do
    Scan.skip 1
    return some (← tokens.addValue cursor)
  | .alias => return some (← tokens.addNoted cursor (Token.alias <$> Scan.name))
  | .anchor => return some (← tokens.addNoted cursor (Token.anchor <$> Scan.name))
  | .tag => return some (← tokens.addNoted cursor (Token.tag <$> Scan.tag))
  | .quoted => return some (← tokens.addNoted cursor ((Token.scalar · false) <$> Quoted.scan))
  | .block isFolded =>
    let tokens ← (tokens.allowing true).dropKey
    return some (tokens.add (.scalar (← Literal.scan isFolded tokens.indent) false))
  | .plain =>
    let tokens ← tokens.noteKey cursor
    let (text, broken) ← Plain.scan tokens.inFlow (tokens.indent + 1)
    return some ((tokens.allowing broken).add (.scalar text true))
  | .nothing => Scan.fail

/-- Adds all tokens up to the end of the document. -/
def addAll : Nat → Tokens → Scan Tokens
  | 0, _ => Scan.fail
  | fuel + 1, tokens => do
    match ← step tokens with
    | some tokens => addAll fuel tokens
    | none => tokens.closeAll

end Tokens

/-- Tokens of a document. -/
def Token.list (document : Text) : Except Trouble (List Token) := do
  let document := Text.dropMark document
  let (tokens, _) ← (Tokens.addAll (document.length + 1) .start).run (.start document)
  return tokens.reversed.reverse

end Yaml
end ProseCheck
