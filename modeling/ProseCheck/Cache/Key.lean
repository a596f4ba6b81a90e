import ProseCheck.Digest
import ProseCheck.Json.Writer
import ProseCheck.Text.Utf8

/-!
# Keys of paragraphs

A paragraph is known by its text and its language.  Its key is the digest of a canonical JSON
text that holds both, so equal paragraphs have equal keys.
-/

namespace ProseCheck
namespace Digest

/-- Digest of a JSON value, taken of its canonical text. -/
def ofJson (value : Json) : Text := sha256 (Utf8.encode (Json.canonical value))

end Digest

namespace Paragraph

/-- The JSON value that stands for a paragraph. -/
def payload (text : Text) (language : String) : Json :=
  .obj [("stage", .str "paragraph"), ("text", .text text), ("language", .str language)]

/-- Key of a paragraph. -/
def key (text : Text) (language : String) : Text := Digest.ofJson (payload text language)

end Paragraph
end ProseCheck
