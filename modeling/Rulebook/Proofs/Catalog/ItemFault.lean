import Rulebook.Proofs.Catalog.Scope
import Rulebook.Proofs.Sql.Projection

/-!
# Faults of select items

An item of a select list that has no type is at fault, and every fault of it is placed at its offset
(`Scope.columnsOf_failsAs`). That is where the item begins, unless blanks stand before it in the
list or inside of the parentheses around the query (`readSchema_projections`).
-/

namespace Rulebook
open Sql Text

/-- The failure is a fault of an item of a view, and placed at its offset. -/
def Failure.OfItem (view : View) (item : Projection) (e : Failure) : Prop :=
  ∃ fault, e = .diagnostic ⟨.relation fault, Place.atOffset view.text item.offset view.source, none⟩

section

variable {scope : Scope} {item : Projection}

namespace Expression

/-- A rejection is a fault of the item. -/
lemma reject_failsAs {α : Type} (fault : RelationFault) :
    (reject scope item fault : Outcome α).FailsAs (Failure.OfItem scope.view item) :=
  .reject ⟨fault, rfl⟩

/-- Where a qualifier means no relation, the item is at fault. -/
lemma relation_failsAs (qualifier : String) :
    (relation scope item qualifier).FailsAs (Failure.OfItem scope.view item) := by
  unfold relation
  split
  · exact .ok _
  · exact reject_failsAs _

/-- Where a column cannot be resolved, the item is at fault. -/
lemma resolveColumn_failsAs (qualifier : Option (List Char)) (name : String) :
    (resolveColumn scope item qualifier name).FailsAs (Failure.OfItem scope.view item) := by
  unfold resolveColumn
  split
  · refine (relation_failsAs _).bind fun r _ => ?_
    split
    · exact .ok _
    · exact reject_failsAs _
  · split
    · exact reject_failsAs _
    · exact .ok _
    · exact reject_failsAs _

/-- Where an operand that is no call has no type, the item is at fault. -/
lemma resolveAtom_failsAs (s : List Char) :
    (resolveAtom scope item s).FailsAs (Failure.OfItem scope.view item) := by
  unfold resolveAtom
  split
  · exact .ok _
  · split
    · exact .ok _
    · split
      · exact .ok _
      · split
        · exact .ok _
        · split
          · exact resolveColumn_failsAs _ _
          · exact reject_failsAs _

/-- Where an operand other than an aggregate has no type, the item is at fault. -/
lemma resolveOther_failsAs (s : List Char) :
    (resolveOther scope item s).FailsAs (Failure.OfItem scope.view item) := by
  rw [resolveOther]
  split
  · exact reject_failsAs _
  · exact resolveAtom_failsAs _

/-- Where operands have no types, the item is at fault if it is for each of them. -/
lemma resolveOperands_failsAs {fuel : Nat}
    (each : ∀ s, (resolve scope item fuel s).FailsAs (Failure.OfItem scope.view item))
    (os : List Operand) :
    (resolveOperands scope item fuel os).FailsAs (Failure.OfItem scope.view item) := by
  induction os with
  | nil =>
    rw [resolveOperands]
    exact .ok _
  | cons o os ih =>
    rw [resolveOperands]
    refine (each _).bind fun r _ => ?_
    split
    · exact reject_failsAs _
    · exact ih.bind fun rs _ => .ok _

/-- Where an expression has no type, the item is at fault. -/
lemma resolve_failsAs (fuel : Nat) (s : List Char) :
    (resolve scope item fuel s).FailsAs (Failure.OfItem scope.view item) := by
  induction fuel generalizing s with
  | zero =>
    rw [resolve]
    exact reject_failsAs _
  | succ fuel ih =>
    rw [resolve]
    dsimp only
    split
    case h_1 | h_2 =>
      split
      · split
        · split
          · split
            · exact (ih _).bind fun r _ => .ok _
            · exact .ok _
          · split
            · exact reject_failsAs _
            · exact (ih _).map _
        · exact resolveOther_failsAs _
      · exact resolveOther_failsAs _
    case h_3 => exact (resolveOperands_failsAs ih _).bind fun rs _ => .ok _

end Expression

namespace Scope

/-- Where an asterisk stands for no columns, the item is at fault. -/
lemma expandStar_failsAs (qualifier : Option (List Char)) :
    (scope.expandStar item qualifier).FailsAs (Failure.OfItem scope.view item) := by
  unfold expandStar
  cases qualifier with
  | some q => exact ((Expression.relation_failsAs _).map _).bind fun rs _ => .ok _
  | none => exact .ok _

/-- An item that gives no columns is at fault. -/
lemma columnsOf_failsAs (item : Projection) :
    (scope.columnsOf item).FailsAs (Failure.OfItem scope.view item) := by
  unfold columnsOf
  split
  · exact expandStar_failsAs _
  · refine (Expression.resolve_failsAs _ _).bind fun r _ => ?_
    dsimp only
    split
    · exact .ok _
    · exact Expression.reject_failsAs _

/-- Where the columns of a view cannot be told, one of its items is at fault. -/
lemma columns_error {e : Failure} (h : scope.columns = .error e) :
    ∃ item ∈ scope.view.projections, scope.columnsOf item = .error e ∧
    e.OfItem scope.view item := by
  obtain ⟨item, hi, he⟩ := Outcome.mapM_error (Outcome.map_error.1 h)
  exact ⟨item, hi, he, columnsOf_failsAs item e he⟩

end Scope

end

/-- Where the columns of a view cannot be told, the failure is a fault of one of its items, in the
line and the column of the offset of that item. -/
def Sql.View.FaultsAtOffsets (text : List Char) (source : Option String) (view : View) : Prop :=
  ∀ rs domain scope e, Scope.ofView rs view domain = .ok scope → scope.columns = .error e →
    ∃ item ∈ view.projections, scope.columnsOf item = .error e ∧ ∃ fault, e = .diagnostic
      ⟨.relation fault, ⟨source, some (lineAt text item.offset), some (columnAt text item.offset),
        some item.offset⟩, none⟩

/-- The items of a view stand behind their offsets by certain blanks, and their faults are
placed at the offsets. -/
theorem readSchema_projections {text : List Char} {source : Option String}
    {schema : Schema} {view : View} (h : readSchema text source = .ok schema)
    (hv : view ∈ schema.views) :
    view.ItemsStand (blankComments text) ∧ view.FaultsAtOffsets text source := by
  obtain ⟨rfl, rfl, stand⟩ := readSchema_itemsStand h hv
  refine ⟨stand, fun rs domain scope e known failed => ?_⟩
  obtain rfl := (Scope.of_ofView known).view_eq
  obtain ⟨item, hi, he, fault, rfl⟩ := Scope.columns_error failed
  exact ⟨item, hi, he, fault, rfl⟩

namespace Misplaced

/-- A table, and a view with a query in parentheses and an item in a line of its own. -/
def text : List Char :=
  "CREATE TABLE t (a INT);\nCREATE VIEW v AS (\n  SELECT t.*,\n    u.* FROM t);\n".toList

/-- The second item stands in the fourth line, at offset 61. -/
def item : Projection := { expression := "u.*", givenName := none, offset := 53 }

/-- The view of the text. -/
def view : View where
  name := "v"
  domain := none
  projections := [{ expression := "t.*", givenName := none, offset := 49 }, item]
  sources := [{ table := "t", givenName := none }]
  columnNames := none
  filters := []
  source := none
  text := text
  offset := 24
  line := 2

/-- The table of the text. -/
def table : Table where
  name := "t"
  domain := none
  columns := [{ name := "a", nativeType := "INT", type := .int32 }]
  source := none
  line := 1

/-- The text is read as the table and the view. -/
lemma read : readSchema text = .ok { tables := [table], views := [view] } := by decide +kernel

/-- The items of the view stand behind their offsets by certain blanks, and its faults are
placed at the offsets. -/
theorem view_projections : view.ItemsStand (blankComments text) ∧ view.FaultsAtOffsets text none :=
  readSchema_projections read (.head _)

/-- The second item does not stand at its offset, and its fault is told of the third line. -/
theorem item_misplaced :
    (∃ schema, readSchema text = .ok schema ∧ view ∈ schema.views ∧
      compileSchemas { defaultDomain := "default" } [schema] =
        .error (.diagnostic ⟨.relation (.unknownAlias "v" "u" "u.*"),
          ⟨none, some 3, some 11, some 53⟩, none⟩)) ∧
    item ∈ view.projections ∧ ¬ item.expression.toList <+: (blankComments text).drop item.offset ∧
    item.expression.toList <+: (blankComments text).drop 61 ∧ lineAt text 61 = 4 := by
  refine ⟨⟨_, read, .head _, ?_⟩, by decide, by decide +kernel, by
    decide +kernel, by decide +kernel⟩
  decide +kernel

end Misplaced
end Rulebook
