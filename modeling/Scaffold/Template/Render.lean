import Scaffold.Template.Reader
import Scaffold.Token.Resolution

/-!
# Rendering templates

`render` substitutes every placeholder by its value, which is copied as it is, or names the first
placeholder without one. `resolveTemplate` completes a table with the tokens that a template needs.
-/

set_option autoImplicit false

namespace Scaffold.Template

/-- The text of the segments; the first token without a value is the error. -/
def renderSegments (table : TokenTable) : List Segment → Except String String
  | [] => .ok ""
  | .literal text :: rest => (renderSegments table rest).map (text ++ ·)
  | .placeholder token :: rest =>
    match table.find? token with
    | some value => (renderSegments table rest).map (value ++ ·)
    | none => .error token

/-- The text of a template. -/
def render (template : Template) (table : TokenTable) : Except Fault String :=
  (renderSegments table template.segments).mapError fun token ↦
    .unresolvedToken token template.name

/-- The text of a body that is read for this purpose alone. -/
def renderBody (name body : String) (table : TokenTable) : Except Fault String := do
  (← parse name body).render table

/-- The supplied tokens together with those that the template refers to. -/
def resolveTemplate (base : TokenTable) (template : Template) : Except Fault TokenTable :=
  Token.resolve base template.placeholders template.name

end Scaffold.Template
