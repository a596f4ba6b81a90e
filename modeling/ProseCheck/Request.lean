import ProseCheck.Segment

/-!
# Requests

A request asks a server to check segments in a language, with some rules turned off and some
words allowed.
-/

namespace ProseCheck

/-- What is asked of a server. -/
structure Request where
  /-- Segments in order. -/
  segments : List Segment
  /-- Language code. -/
  language : String
  /-- Rules that are turned off. -/
  disabledRules : Option (List String)
  /-- Words that are not reported. -/
  allowedWords : Option (List String)
deriving DecidableEq, Repr

namespace Request

/-- Text that is checked. -/
def text (request : Request) : Text := request.segments.flatMap Segment.emitted

/-- Reads a request. -/
def read : Json → Validated Request :=
  Validated.record fun members =>
    Request.mk
      <$> Validated.required members "segments" (Validated.list Segment.read)
      <*> Validated.required members "language" Validated.string
      <*> Validated.optional members "disabled_rules" none
        (Validated.nullable (Validated.list Validated.string))
      <*> Validated.optional members "allowed_words" none
        (Validated.nullable (Validated.list Validated.string))

/-- The request as JSON. -/
def toJson (request : Request) : Json :=
  .obj [("segments", .arr (request.segments.map Segment.toJson)),
    ("language", .str request.language),
    ("disabled_rules", Json.option Json.strings request.disabledRules),
    ("allowed_words", Json.option Json.strings request.allowedWords)]

end Request
end ProseCheck
