import TypeGraph.Configuration.Reading
import TypeGraph.Toml.Document

/-!
# Configuration files

A configuration is written as a Toml document. Its paths are seen from the directory of the file.
-/

namespace TypeGraph.Configuration

/-- The configuration in a text. -/
def ofToml? (text : String) : Option Configuration := do
  let document ← Toml.read? text
  (ofJson .withoutNull document).toOption

/-- The configuration in a text, when the text is one. -/
def ofText (text : String) : Except Error Configuration :=
  match ofToml? text with
  | some c => .ok c
  | none => .error (.config .malformed)

end TypeGraph.Configuration
