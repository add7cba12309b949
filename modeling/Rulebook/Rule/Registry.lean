import Rulebook.Diagnostic

/-!
# The registry of context categories

Rules may require something of the context they are evaluated in. The registry declares the
categories of such requirements, each with typed fields; a category can be switched off.
-/

namespace Rulebook

/-- A typed field of a category. -/
structure ContextField where
  name : String
  type : ScalarType
  deriving DecidableEq

/-- A category of the context. -/
structure Category where
  name : String
  enabled : Bool := true
  fields : List ContextField := []
  deriving DecidableEq

/-- The first field of a name. -/
def Category.field? (c : Category) (name : String) : Option ContextField :=
  c.fields.find? fun f => f.name == name

/-- The categories of the context in the order of their declaration. -/
structure Registry where
  categories : List Category := []
  deriving DecidableEq

namespace Registry

/-- The category of a name. -/
def category? (r : Registry) (name : String) : Option Category :=
  r.categories.find? fun c => c.name == name

/-- The type of a field of a category. -/
def fieldType? (r : Registry) (category field : String) : Option ScalarType :=
  (r.category? category).bind fun c => (c.field? field).map (·.type)

/-- Puts a category into a list; one of the same name gives its place to the new one. -/
def insert (c : Category) : List Category → List Category
  | [] => [c]
  | d :: ds => if d.name = c.name then c :: ds else d :: insert c ds

end Registry
end Rulebook
