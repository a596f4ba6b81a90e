import ProseCheck.Text.Upper

/-!
# Language codes

A server names languages with a region.  The code of a document language is the one that the
user set for it, else language and region where the document gives a region, else the usual one
of the language, else the short code itself.
-/

namespace ProseCheck
namespace LanguageCode

/-- The code of plain text. -/
def standard : String := "en-US"

/-- Usual codes of languages without a region. -/
def usual : List (String × String) :=
  [("de", "de-DE"), ("en", "en-US"), ("pt", "pt-PT"), ("ca", "ca-ES"), ("nl", "nl-NL"),
    ("ru", "ru-RU"), ("pl", "pl-PL"), ("sk", "sk-SK"), ("sl", "sl-SI"), ("uk", "uk-UA"),
    ("ast", "ast-ES"), ("be", "be-BY"), ("br", "br-FR"), ("gl", "gl-ES"), ("km", "km-KH"),
    ("ro", "ro-RO"), ("sv", "sv-SE"), ("ta", "ta-IN"), ("tl", "tl-PH")]

/-- Language and region, the region in upper case. -/
def withRegion (language region : String) : String :=
  language ++ "-" ++ String.ofList (Upper.ofText region.toList)

/-- Code of a document language. -/
def resolve (overrides : List (String × String)) (language : String) (region : Option String) :
    String :=
  match overrides.lookup language, region.filter (· ≠ "") with
  | some code, _ => code
  | none, some region => withRegion language region
  | none, none => (usual.lookup language).getD language

end LanguageCode
end ProseCheck
