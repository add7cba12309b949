import Rulebook.Bound.Comparand
import Rulebook.Catalog.Entity
import Rulebook.Rule.Book

/-!
# Rule sets

A book bound to a catalog: every rule knows the entity it is about, every clause the type of its
field, and every literal has the form in which it is compared. Nothing of the catalog is needed to
evaluate a rule set.
-/

namespace Rulebook

open Text

/-- A condition with the type of its field. -/
structure Clause where
  field : String
  operator : Operator
  literal : Comparand
  type : ScalarType
  /-- The condition in one line. -/
  text : String
  deriving DecidableEq

/-- Clauses on one category of the context. -/
structure Gate where
  category : String
  clauses : List Clause
  deriving DecidableEq

/-- What decides a bound rule. -/
inductive Decision where
  | single (clause : Clause)
  | compound (logic : Logic) (clauses : List Clause)
  deriving DecidableEq

/-- An entity as rules see it: the names and types of its fields. -/
structure Binding where
  domain : String
  kind : TargetKind
  name : String
  /-- The name of the table or view. -/
  sourceName : String
  fieldTypes : List (String × ScalarType)
  deriving DecidableEq

namespace Binding

/-- Sets the type of a field; a known field keeps its place. -/
def setType (field : String) (type : ScalarType) :
    List (String × ScalarType) → List (String × ScalarType)
  | [] => [(field, type)]
  | (f, t) :: rest => if f = field then (f, type) :: rest else (f, t) :: setType field type rest

/-- An entity as rules see it. -/
def ofEntity (e : Entity) : Binding where
  domain := e.domain
  kind := e.kind
  name := e.name
  sourceName := e.sourceName
  fieldTypes := e.fields.foldl (fun acc f => setType f.name f.type acc) []

/-- Two bindings are of one entity. -/
def sameKey (a b : Binding) : Bool := a.domain == b.domain && a.kind == b.kind && a.name == b.name

/-- The names of the fields. -/
def fieldNames (b : Binding) : List String := b.fieldTypes.map (·.1)

end Binding

/-- A rule bound to its entity. -/
structure BoundRule where
  name : String
  binding : Binding
  blocking : Bool
  gates : List Gate
  decision : Decision
  positive : String
  negative : String
  /-- The rule as it stands in the book. -/
  definition : Rule
  deriving DecidableEq

/-- The entities that rules are bound to, in the order in which rules first use them. -/
abbrev Targets := List Binding

namespace Targets

/-- The binding of a kind and an entity name in a domain. -/
def get? (ts : Targets) (domain : String) (kind : TargetKind) (name : String) : Option Binding :=
  ts.find? fun b => b.domain == domain && b.kind == kind && b.name == name

/-- The binding by the entity's name, or else by the name of its table or view in any case. -/
def resolve? (ts : Targets) (domain name : String) (kind : TargetKind) : Option Binding :=
  (ts.get? domain kind name).or
    (ts.find? fun b => b.domain == domain && b.kind == kind &&
      b.sourceName == String.ofList (lower name.toList))

end Targets

/-- The rules of a book, bound. -/
structure RuleSet where
  rules : List BoundRule
  targets : Targets
  catalog : Catalog
  book : Book
  deriving DecidableEq

namespace RuleSet

/-- The names of the rules. -/
def names (s : RuleSet) : List String := s.rules.map (·.name)

/-- The last rule of a name. -/
def rule? (s : RuleSet) (name : String) : Option BoundRule :=
  s.rules.reverse.find? fun r => r.name == name

/-- The rules about a target, in the order of the book. -/
def forTarget (s : RuleSet) (domain name : String) (kind : TargetKind) : List BoundRule :=
  match s.targets.resolve? domain name kind with
  | some b => s.rules.filter fun r => r.binding.sameKey b
  | none => []

end RuleSet

/-! ## Binding -/

namespace Bind

/-- Rejects a rule. -/
def refuse {α : Type} (rule : Rule) (fault : RuleFault) : Outcome α :=
  reject (.rule fault) rule.place (some rule.name)

/-- Binds a condition to the type of its field. -/
def clause (rule : Rule) (c : Condition) (type : Option ScalarType) (category : Option String) :
    Outcome Clause :=
  match type with
  | none => refuse rule (.unboundField (category.filter (· != "")) c.field)
  | some type => do
    let literal ← comparisonLiteral c.literal.toValue type c.literalText
    let literal ← Comparand.ofValue literal
    .ok { field := c.field, operator := c.operator, literal, type, text := c.describe }

/-- Binds a requirement. -/
def gate (registry : Registry) (rule : Rule) (q : Requirement) : Outcome Gate := do
  let clauses ← q.conditions.mapM fun c =>
    clause rule c (registry.fieldType? q.category c.field) (some q.category)
  .ok ⟨q.category, clauses⟩

/-- Binds a main condition. -/
def decision (rule : Rule) (b : Binding) : MainCondition → Outcome Decision
  | .single c => .single <$> clause rule c (b.fieldTypes.lookup c.field) none
  | .compound logic cs =>
    .compound logic <$> cs.mapM fun c => clause rule c (b.fieldTypes.lookup c.field) none

/-- The binding of a rule's target, and the targets with it. -/
def target (catalog : Catalog) (ts : Targets) (rule : Rule) : Outcome (Binding × Targets) :=
  let t := rule.target
  match catalog.findTarget? t.domain t.name t.kind with
  | none => refuse rule (.noTarget t.kind t.name t.domain false)
  | some e =>
    match ts.get? e.domain e.kind e.name with
    | some b => .ok (b, ts)
    | none => .ok (Binding.ofEntity e, ts ++ [Binding.ofEntity e])

/-- Binds a rule to the binding of its target. -/
def rule (registry : Registry) (r : Rule) (b : Binding) : Outcome BoundRule := do
  let gates ← r.requirements.mapM (gate registry r)
  let d ← decision r b r.condition
  .ok { name := r.name, binding := b, blocking := r.blocking, gates, decision := d
        positive := r.positive, negative := r.negative, definition := r }

/-- Binds rules, one after the other. -/
def rules (catalog : Catalog) (registry : Registry) (ts : Targets) :
    List Rule → Outcome (List BoundRule × Targets)
  | [] => .ok ([], ts)
  | r :: rs => do
    let (b, ts) ← target catalog ts r
    let bound ← rule registry r b
    let (more, ts) ← rules catalog registry ts rs
    .ok (bound :: more, ts)

end Bind

/-- Binds a book to a catalog. -/
def Book.bind (b : Book) (catalog : Catalog) : Outcome RuleSet := do
  let (rules, targets) ← Bind.rules catalog b.registry [] b.rules
  .ok { rules, targets, catalog, book := b }

end Rulebook
