/-!
# Kinds of nodes

The closed set of node kinds of a markup document.  A name outside the set stands for the kind
`other`, so no kind is ever refused.
-/

namespace ProseCheck

/-- Kind of a node of a markup document. -/
inductive Kind where
  | markup
  | text
  | space
  | linebreak
  | parbreak
  | escape
  | shorthand
  | smartQuote
  | strong
  | emph
  | raw
  | link
  | label
  | ref
  | refMarker
  | heading
  | headingMarker
  | listItem
  | listMarker
  | enumItem
  | enumMarker
  | termItem
  | termMarker
  | equation
  | math
  | dollar
  | funcCall
  | fieldAccess
  | ident
  | args
  | named
  | colon
  | comma
  | str
  | contentBlock
  | codeBlock
  | code
  | leftBracket
  | rightBracket
  | leftBrace
  | rightBrace
  | leftParen
  | rightParen
  | hash
  | star
  | underscore
  | other
deriving DecidableEq, Repr, Inhabited

namespace Kind

/-- Name of a kind in documents. -/
def name : Kind → String
  | .markup => "Markup"
  | .text => "Text"
  | .space => "Space"
  | .linebreak => "Linebreak"
  | .parbreak => "Parbreak"
  | .escape => "Escape"
  | .shorthand => "Shorthand"
  | .smartQuote => "SmartQuote"
  | .strong => "Strong"
  | .emph => "Emph"
  | .raw => "Raw"
  | .link => "Link"
  | .label => "Label"
  | .ref => "Ref"
  | .refMarker => "RefMarker"
  | .heading => "Heading"
  | .headingMarker => "HeadingMarker"
  | .listItem => "ListItem"
  | .listMarker => "ListMarker"
  | .enumItem => "EnumItem"
  | .enumMarker => "EnumMarker"
  | .termItem => "TermItem"
  | .termMarker => "TermMarker"
  | .equation => "Equation"
  | .math => "Math"
  | .dollar => "Dollar"
  | .funcCall => "FuncCall"
  | .fieldAccess => "FieldAccess"
  | .ident => "Ident"
  | .args => "Args"
  | .named => "Named"
  | .colon => "Colon"
  | .comma => "Comma"
  | .str => "Str"
  | .contentBlock => "ContentBlock"
  | .codeBlock => "CodeBlock"
  | .code => "Code"
  | .leftBracket => "LeftBracket"
  | .rightBracket => "RightBracket"
  | .leftBrace => "LeftBrace"
  | .rightBrace => "RightBrace"
  | .leftParen => "LeftParen"
  | .rightParen => "RightParen"
  | .hash => "Hash"
  | .star => "Star"
  | .underscore => "Underscore"
  | .other => "Other"

/-- All kinds. -/
def all : List Kind :=
  [
    .markup, .text, .space, .linebreak, .parbreak, .escape, .shorthand, .smartQuote, .strong,
    .emph, .raw, .link, .label, .ref, .refMarker, .heading, .headingMarker, .listItem,
    .listMarker, .enumItem, .enumMarker, .termItem, .termMarker, .equation, .math, .dollar,
    .funcCall, .fieldAccess, .ident, .args, .named, .colon, .comma, .str, .contentBlock,
    .codeBlock, .code, .leftBracket, .rightBracket, .leftBrace, .rightBrace, .leftParen,
    .rightParen, .hash, .star, .underscore, .other
  ]

/-- Kind of a name; `other` for a name that no kind has. -/
def ofName (written : String) : Kind := (all.find? fun kind => kind.name == written).getD .other

/-- Marks at the start of a heading or of a list item. -/
def isItemMarker : Kind → Bool
  | .headingMarker | .listMarker | .enumMarker | .termMarker => true
  | _ => false

@[simp]
theorem ofName_name (kind : Kind) : ofName kind.name = kind := by
  cases kind <;> decide

end Kind
end ProseCheck
