import Rulebook.Catalog.Relation
import Rulebook.Sql.View

/-!
# Select expressions

The type of what a view selects: columns, literals, aggregates and arithmetic. An expression is
stripped of the parentheses around it, split at the operators of its top level, and otherwise
matched against the forms of a single operand.
-/

namespace Rulebook

open Sql Text

/-- The type of a select expression. -/
structure Resolved where
  type : ScalarType
  nullable : Bool
  name : Option String := none
  precision : Option Int := none
  scale : Option Int := none
  /-- The relation and the column, of an expression that is a plain column. -/
  origin : Option String := none

namespace Resolved

/-- A column of a relation. -/
def ofField (r : Entity) (f : Field) : Resolved :=
  ⟨f.type, f.nullable, some f.name, f.precision, f.scale, some s!"{r.sourceName}.{f.name}"⟩

end Resolved

namespace Expression

/-! ## Shapes -/

/-- The offset, in a masked text, of the parenthesis that closes the first open one. -/
def firstClosing (pos : Nat) (depth : Int) : List Char → Option Nat
  | [] => none
  | c :: rest =>
    if c == '(' then firstClosing (pos + 1) (depth + 1) rest
    else if c == ')' then
      if depth - 1 == 0 then some pos else firstClosing (pos + 1) (depth - 1) rest
    else firstClosing (pos + 1) depth rest

/-- The first parenthesis of a text closes at its very end. -/
def isWrapped (s : List Char) : Bool :=
  firstClosing 0 0 (mask s) == some ((trimEnd s).length - 1) && !(trimEnd s).isEmpty

/-- Takes off the parentheses around an expression; the first argument bounds
the number of steps. -/
def peel : Nat → List Char → List Char
  | 0, s => s
  | fuel + 1, s =>
    if s.head? == some '(' && isWrapped s then peel fuel (trim (s.drop 1).dropLast) else s

/-- An arithmetic operator. -/
def isArithmetic (c : Char) : Bool := c == '+' || c == '-' || c == '*' || c == '/'

/-- An operand and the operator before it. -/
structure Operand where
  operator : Option Char
  text : List Char

/-- Splits a text, paired with its mask, at the operators that have an operand before them;
`previous` is the last mark that is no blank, and `operator` stands before the current operand. -/
def splitOperands (operator previous : Option Char) : List (Char × Char) → List Operand
  | [] => [⟨operator, []⟩]
  | (c, m) :: rest =>
    let operandBefore := previous.any fun p => !(isArithmetic p || p == '(')
    if isArithmetic m && operandBefore then
      ⟨operator, []⟩ :: splitOperands (some m) (some m) rest
    else match splitOperands operator (if isBlank m then previous else some m) rest with
      | [] => [⟨operator, [c]⟩]
      | o :: os => { o with text := c :: o.text } :: os

/-- The operands of an expression. -/
def operands (s : List Char) : List Operand := splitOperands none none (s.zip (mask s))

/-- An aggregate function as it is written, and its argument. -/
def aggregate : Pattern (List Char × List Char) := fun s =>
  let name : Pattern Unit := Pattern.anyOf [
    Pattern.kw "count", Pattern.kw "sum", Pattern.kw "avg", Pattern.kw "min", Pattern.kw "max"]
  (name s).flatMap fun ((), afterName) =>
    let argument : Pattern (List Char) := do
      let _ ← Pattern.blanks
      let _ ← Pattern.char '('
      let _ ← Pattern.blanks
      let _ ← Pattern.optional do
        Pattern.kw "distinct"
        Pattern.gap
      let (inner, _) ← Pattern.before do
        let _ ← Pattern.blanks
        let _ ← Pattern.char ')'
        Pattern.atEnd
      pure inner
    (argument afterName).map fun (inner, rest) =>
      ((s.take (s.length - afterName.length), inner), rest)

/-- The name of a function that is called. -/
def call : Pattern (List Char) := do
  let c ← Pattern.one (beginsIdentifier false)
  let cs ← Pattern.run isWord
  let _ ← Pattern.blanks
  let _ ← Pattern.char '('
  pure (c :: cs)

/-- Something qualified by the name of a relation, if one is given. -/
def qualified {α : Type} (p : Pattern α) : Pattern (Option (List Char) × α) := do
  let qualifier ← Pattern.optional do
    let q ← identifier false
    let _ ← point
    pure q
  let a ← p
  pure (qualifier, a)

/-- A column, perhaps qualified, and nothing else. -/
def column : Pattern (Option (List Char) × List Char) :=
  qualified (identifier false) <* Pattern.atEnd

/-- All columns, perhaps of one relation, and nothing else. -/
def star : Pattern (Option (List Char)) :=
  (fun (q, _) => q) <$> (qualified (Pattern.char '*') <* Pattern.atEnd)

/-- A whole number. -/
def wholeNumber : Pattern Unit := do
  let _ ← Pattern.run1 isDecimalDigit
  Pattern.atEnd

/-- A number with a point. -/
def pointNumber : Pattern Unit :=
  let before : Pattern Unit := do
    let _ ← Pattern.run1 isDecimalDigit
    let _ ← Pattern.char '.'
    let _ ← Pattern.run isDecimalDigit
    Pattern.atEnd
  let after : Pattern Unit := do
    let _ ← Pattern.char '.'
    let _ ← Pattern.run1 isDecimalDigit
    Pattern.atEnd
  Pattern.either before after

/-- The rest of a text after its opening quote, up to and with a quote that closes it,
as late as possible. -/
def textRest : Pattern Unit
  | [] => []
  | '\'' :: '\'' :: rest => textRest rest ++ [((), '\'' :: rest)]
  | c :: rest => if c = '\'' then [((), rest)] else textRest rest

/-- Text between single quotes, in which a quote is written twice. -/
def textLiteral : Pattern Unit := do
  let _ ← Pattern.char '\''
  textRest

/-! ## Typing -/

/-- Rejects the item that an expression belongs to. -/
def reject {α : Type} (scope : Scope) (item : Projection) (fault : RelationFault) : Outcome α :=
  Scope.reject scope.view fault item.offset

/-- The relation that a qualifier means. -/
def relation (scope : Scope) (item : Projection) (qualifier : String) : Outcome Entity :=
  match scope.relation? qualifier with
  | some r => .ok r
  | none => reject scope item (.unknownAlias scope.view.name qualifier item.expression)

/-- The type of a column. -/
def resolveColumn (scope : Scope) (item : Projection) (qualifier : Option (List Char))
    (name : String) :
    Outcome Resolved :=
  match qualifier with
  | some q => do
    let r ← relation scope item (String.ofList (unquote q))
    match r.column? name with
    | some f => .ok (.ofField r f)
    | none => reject scope item (.noColumn scope.view.name r.sourceName name item.expression)
  | none =>
    match scope.tableRelations.filterMap fun r => (r.column? name).map (Resolved.ofField r) with
    | [] => reject scope item (.unresolvedColumn scope.view.name name item.expression)
    | [c] => .ok c
    | _ => reject scope item (.ambiguousColumn scope.view.name name item.expression)

/-- The type of an aggregate over an argument of a given type. -/
def aggregateType (function : String) (argument : Resolved) : Resolved :=
  if function == "SUM" then ⟨.decimal, true, none, none, none, none⟩
  else if function == "AVG" then ⟨.float64, true, none, none, none, none⟩
  else ⟨argument.type, true, none, argument.precision, argument.scale, none⟩

/-- The type of an arithmetic expression: the widest of its operands; division leaves
the whole numbers. -/
def arithmeticType (divides : Bool) (rs : List Resolved) : Resolved :=
  let type := match rs with
    | [] => .int32
    | r :: rest => rest.foldl (fun t r => t.wider r.type) r.type
  let type := if divides && (type == .int32 || type == .int64) then .float64 else type
  ⟨type, rs.any (·.nullable), none, none, none, none⟩

/-- The type of an operand that is no aggregate and no call. -/
def resolveAtom (scope : Scope) (item : Projection) (s : List Char) : Outcome Resolved :=
  if wholeNumber.matchesStart s then .ok ⟨.int32, false, none, none, none, none⟩
  else if pointNumber.matchesStart s then .ok ⟨.decimal, false, none, none, none, none⟩
  else if (textLiteral *> Pattern.atEnd).matchesStart s then
    .ok ⟨.string, false, none, none, none, none⟩
  else if capitals s == "TRUE" || capitals s == "FALSE" then
    .ok ⟨.bool, false, none, none, none, none⟩
  else match column.first? s with
    | some ((qualifier, name), _) =>
      resolveColumn scope item qualifier (String.ofList (unquote name))
    | none => reject scope item (.unresolvable scope.view.name item.expression)

mutual

/-- The type of an expression; the first argument bounds the depth of nesting. -/
def resolve (scope : Scope) (item : Projection) : Nat → List Char → Outcome Resolved
  | 0, _ => reject scope item (.unresolvable scope.view.name item.expression)
  | fuel + 1, s => do
    let s := peel s.length (trim s)
    match operands s with
    | [] | [_] =>
      match aggregate.first? s with
      | some ((name, inner), _) =>
        if isWrapped (s.dropWhile (· != '(')) then
          let function := capitals name
          let inner := trim inner
          if function == "COUNT" then
            if inner != ['*'] then
              let _ ← resolve scope item fuel inner
            .ok ⟨.int64, false, none, none, none, none⟩
          else if inner == ['*'] || inner.isEmpty then
            reject scope item (.aggregateNeedsColumn scope.view.name function item.expression)
          else aggregateType function <$> resolve scope item fuel inner
        else resolveOther scope item s
      | none => resolveOther scope item s
    | several => do
      let rs ← resolveOperands scope item fuel several
      .ok (arithmeticType (several.any fun o => o.operator == some '/') rs)

/-- The types of operands, all of which must be numbers. -/
def resolveOperands (scope : Scope) (item : Projection) :
    Nat → List Operand → Outcome (List Resolved)
  | _, [] => .ok []
  | fuel, o :: os => do
    let r ← resolve scope item fuel o.text
    if !r.type.isNumeric then
      reject scope item
        (.nonNumeric scope.view.name (String.ofList (trim o.text)) r.type item.expression)
    else do
      let rs ← resolveOperands scope item fuel os
      .ok (r :: rs)

/-- The type of a single operand other than an aggregate. -/
def resolveOther (scope : Scope) (item : Projection) (s : List Char) : Outcome Resolved :=
  match call.first? s with
  | some (function, _) =>
    reject scope item (.unknownFunction scope.view.name (String.ofList function) item.expression)
  | none => resolveAtom scope item s

end

/-- The type of a whole expression. -/
def typeOf (scope : Scope) (item : Projection) (s : List Char) : Outcome Resolved :=
  resolve scope item (s.length + 1) s

end Expression
end Rulebook
