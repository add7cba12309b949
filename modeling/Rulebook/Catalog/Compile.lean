import Rulebook.Catalog.Expression
import Rulebook.Catalog.Naming
import Rulebook.Catalog.Ordinal

/-!
# Compiling schemas

From parsed schema files to a catalog. All tables are compiled first, then the views in the order of
their declaration, so that a view may select from any table and from any view before it.
-/

namespace Rulebook

open Sql Text

/-! ## Views -/

namespace Scope

/-- The columns that `*` stands for. -/
def expandStar (scope : Scope) (item : Projection) (qualifier : Option (List Char)) :
    Outcome (List Resolved) := do
  let rs ← match qualifier with
    | some q => (fun r => [r]) <$> Expression.relation scope item (String.ofList (unquote q))
    | none => .ok scope.aliasRelations
  .ok (rs.flatMap fun r => r.fields.map (Resolved.ofField r))

/-- The columns that one item of a select list gives. -/
def columnsOf (scope : Scope) (item : Projection) : Outcome (List Resolved) := do
  match Expression.star.first? item.expression.toList with
  | some (qualifier, _) => scope.expandStar item qualifier
  | none => do
    let r ← Expression.typeOf scope item item.expression.toList
    let name := (item.givenName.filter (· != "")).or r.name
    match name.filter (· != "") with
    | some name => .ok [{ r with name := some name }]
    | none => Expression.reject scope item (.needsAlias scope.view.name item.expression)

/-- The columns of a view. -/
def columns (scope : Scope) : Outcome (List Resolved) :=
  List.flatten <$> scope.view.projections.mapM scope.columnsOf

/-- A text with its single-quoted parts replaced by blanks; the first argument bounds
the number of steps. -/
def withoutText : Nat → List Char → List Char
  | 0, s => s
  | _, [] => []
  | fuel + 1, c :: rest =>
    match Expression.textLiteral.first? (c :: rest) with
    | some (_, after) => ' ' :: withoutText fuel after
    | none => c :: withoutText fuel rest

/-- A word of the query language that names no column. -/
def isQueryWord (name : List Char) : Bool :=
  ["AND", "OR", "NOT", "NULL", "IS", "IN", "LIKE", "BETWEEN", "TRUE", "FALSE",
    "EXISTS", "CASE", "WHEN", "THEN", "ELSE", "END", "AS", "ASC", "DESC", "COUNT", "SUM",
    "AVG", "MIN", "MAX", "DISTINCT"].contains (capitals name)

/-- The column that a reference means, as relation and column; what cannot be
told is passed over. -/
def reference? (scope : Scope) (qualifier : Option (List Char)) (name : List Char) :
    Option String :=
  let name := unquote name
  if isQueryWord name then none
  else
    let column := String.ofList name
    let relation : Option Entity := match qualifier with
      | some q => scope.relation? (String.ofList (unquote q))
      | none =>
        match scope.tableRelations.filter fun r => (r.fieldUpToCase? column).isSome with
        | [r] => some r
        | _ => none
    relation.bind fun r => (r.fieldUpToCase? column).map fun f => s!"{r.sourceName}.{f.name}"

/-- The references of one filter text. -/
def referencesIn (scope : Scope) (filter : String) : List String :=
  let s := withoutText (filter.toList.length + 1) filter.toList
  (Pattern.findAll (Expression.qualified (identifier false)) .anywhere s).filterMap fun found =>
    scope.reference? found.value.1 found.value.2

/-- The columns used in joins, filters and groupings that the view does not show as they are. -/
def referenced (scope : Scope) (shown : List Resolved) : List String :=
  ((scope.view.filters.flatMap scope.referencesIn).filter fun r =>
    !(shown.any fun c => c.origin == some r)).eraseDups

end Scope

/-- Gives columns their listed names. -/
def renameColumns : List Resolved → List String → List Resolved
  | c :: cs, n :: ns => { c with name := some n } :: renameColumns cs ns
  | cs, _ => cs

/-- The names that occur more than once, in order. -/
def repeatedNames (names : List String) : List String :=
  ((names.filter fun n => 1 < names.count n).eraseDups).mergeSort fun a b => !(b < a)

/-! ## Compiling -/

/-- What schemas are compiled with. -/
structure CompileSettings where
  /-- The domain of statements without a marker. -/
  defaultDomain : String
  /-- Domains of single relations, which go before markers. -/
  domainMap : List (String × String) := []
  /-- The catalog of the version before. -/
  previous : Option Catalog := none

namespace CompileSettings

/-- The domain of a statement. -/
def domainOf (s : CompileSettings) (name : String) (marker : Option String) : String :=
  let small (n : String) := String.ofList (lower n.toList)
  let mapped := (s.domainMap.reverse.find? fun (n, _) => small n == small name).map (·.2)
  ((mapped.filter (· != "")).or (marker.filter (· != ""))).getD s.defaultDomain

/-- The numbers of the fields of an entity. -/
def ordinals (s : CompileSettings) (domain entity : String) (fields : List String) : List Int :=
  (previousNumbering s.previous domain entity).assign fields

end CompileSettings

/-- The first name that repeats an earlier one up to case. -/
def firstRepeated? (seen : List (List Char)) : List String → Option String
  | [] => none
  | n :: ns =>
    if seen.contains (lower n.toList) then some n else firstRepeated? (lower n.toList :: seen) ns

/-- The entity that a table is. -/
def tableEntity (settings : CompileSettings) (table : Table) (domain : String) : Entity :=
  let names := table.columns.map (·.name)
  let name := Naming.modelName table.name
  let fields := (table.columns.zip (settings.ordinals domain name names)).map fun (c, ordinal) =>
    { name := c.name, type := c.type, nullable := c.nullable, isKey := c.isKey, ordinal
      keyPosition := c.keyPosition.map Int.ofNat, precision :=
      c.precision, scale := c.scale : Field }
  { kind := .model, name, domain, fields, sourceName := String.ofList (lower table.name.toList)
    resource := Naming.resourceName table.name }

/-- Compiles a table. -/
def compileTable (settings : CompileSettings) (table : Table) (domain : String) : Outcome Entity :=
  match firstRepeated? [] (table.columns.map (·.name)) with
  | some column =>
    reject (.relation (.duplicateColumn column table.name)) (.atLine table.source (some table.line))
  | none => .ok (tableEntity settings table domain)

/-- Rejects a view where its statement begins. -/
def refuseView {α : Type} (view : View) (fault : RelationFault) : Outcome α :=
  reject (.relation fault) (.atLine view.source (some view.line))

/-- The columns of a view under the names that it lists, if it lists any. -/
def listedColumns (view : View) (columns : List Resolved) : Outcome (List Resolved) :=
  match view.columnNames with
  | none => .ok columns
  | some names =>
    if names.length != columns.length then
      refuseView view (.columnCount view.name names.length columns.length)
    else .ok (renameColumns columns names)

/-- The entity that a view with given columns is. -/
def viewEntity (settings : CompileSettings) (scope : Scope) (domain : String)
    (columns : List Resolved) : Entity :=
  let names := columns.map fun c => c.name.getD ""
  let name := Naming.viewName scope.view.name
  let fields := ((columns.zip names).zip (settings.ordinals domain name names)).map
    fun ((c, n), ordinal) =>
    { name := n, type := c.type, nullable := c.nullable, ordinal, precision := c.precision
      scale := c.scale : Field }
  { kind := .view, name, domain, fields, sourceName := String.ofList (lower scope.view.name.toList)
    resource := Naming.resourceName scope.view.name, referenced := scope.referenced columns }

/-- Compiles a view. -/
def compileView (settings : CompileSettings) (relations : Relations) (view : View)
    (domain : String) :
    Outcome Entity := do
  let scope ← Scope.ofView relations view domain
  let columns ← scope.columns
  let columns ← listedColumns view columns
  let repeated := repeatedNames (columns.map fun c => c.name.getD "")
  if repeated.isEmpty then .ok (viewEntity settings scope domain columns)
  else refuseView view (.duplicateProjection view.name repeated)

/-- Adds an entity to the others of its kind. -/
def Domain.add (d : Domain) (e : Entity) : Domain :=
  match e.kind with
  | .model => { d with models := d.models ++ [e] }
  | .view => { d with views := d.views ++ [e] }

/-- Adds a model or a view to its domain, which is opened at the first entity. -/
def addEntity (e : Entity) : List Domain → List Domain
  | [] => [Domain.add { name := e.domain } e]
  | d :: ds => if d.name = e.domain then d.add e :: ds else d :: addEntity e ds

/-- The catalog under construction, and the relations it holds. -/
structure Progress where
  domains : List Domain := []
  relations : Relations := []

/-- An entity of the same kind and name is in the domain already. -/
def Progress.declares (p : Progress) (e : Entity) : Bool :=
  ((p.domains.find? fun d => d.name == e.domain).map fun d =>
    (d.ofKind e.kind).any fun o => o.name == e.name).getD false

/-- Adds an entity, unless its name is taken. -/
def Progress.declare (p : Progress) (e : Entity) (place : Place) : Outcome Progress :=
  if p.declares e then
    reject (.relation (match e.kind with
      | .model => .duplicateModel e.name e.domain
      | .view => .duplicateView e.name e.domain)) place
  else .ok ⟨addEntity e p.domains, p.relations.add e⟩

/-- Compiles and adds tables. -/
def addTables (settings : CompileSettings) (p : Progress) : List Table → Outcome Progress
  | [] => .ok p
  | table :: rest => do
    let e ← compileTable settings table (settings.domainOf table.name table.domain)
    let p ← p.declare e (.atLine table.source (some table.line))
    addTables settings p rest

/-- Compiles and adds views. -/
def addViews (settings : CompileSettings) (p : Progress) : List View → Outcome Progress
  | [] => .ok p
  | view :: rest => do
    let e ← compileView settings p.relations view (settings.domainOf view.name view.domain)
    let p ← p.declare e (.atLine view.source (some view.line))
    addViews settings p rest

/-- Compiles the schemas of a project. -/
def compileSchemas (settings : CompileSettings) (schemas : List Schema) : Outcome Catalog := do
  let p ← addTables settings {} (schemas.flatMap (·.tables))
  let p ← addViews settings p (schemas.flatMap (·.views))
  .ok { domains := p.domains }

end Rulebook
