import RdfMapping.Json.Shape
import RdfMapping.Template.Reader

/-!
# The exchange form of templates

A template is exchanged as the text that it is written as.
-/

namespace RdfMapping.Template

open Json Json.Outline

def toJson (t : Template) : Json := .text t.render

/-- A text that is no template is refused. -/
def ofOutline? (outline : Outline) : Option Template := do
  let text ← text? outline
  (read text).toOption

end RdfMapping.Template
