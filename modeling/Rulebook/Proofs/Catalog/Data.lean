import Rulebook.Bound.RuleSet
import Rulebook.Catalog.Data
import Rulebook.Check.Rules
import Rulebook.Proofs.Catalog.Compile
import Rulebook.Proofs.Data

/-!
# Catalogs as data lose nothing

A catalog that is written as data is read back as it was (`Catalog.Placed.ofData_toData`). The
domain of an entity is not written with it but is that of the enclosing domain, and a model has no
columns that it uses without showing them; so entities have to stand where they say
(`Catalog.Placed`), as they do in every catalog that is compiled (`compileSchemas_placed`) or read
(`Catalog.placed_of_ofData`).
-/

namespace Rulebook
open Value

/-- An entity stands in the domain and among the entities of the kind that it names. -/
structure Entity.PlacedIn (e : Entity) (domain : String) (kind : TargetKind) : Prop where
  domain_eq : e.domain = domain
  kind_eq : e.kind = kind
  referenced : e.kind = .model → e.referenced = []

/-- The entities of a domain stand in it. -/
def Domain.Placed (d : Domain) : Prop := ∀ k, ∀ e ∈ d.ofKind k, e.PlacedIn d.name k

/-- The entities of a catalog stand where they say. -/
def Catalog.Placed (c : Catalog) : Prop := ∀ d ∈ c.domains, d.Placed

/-! ## Reading back -/

/-- Under the key of an optional number stands the number, if there is one. -/
@[simp] lemma lookup?_optionalEntry (key k : String) (n : Option Int) :
    lookup? key ((optionalEntry k n).map fun (k, v) => (.text k, v)) = if k = key then
    n.map .int else none := by
  cases n with
  | none => simp [optionalEntry]
  | some n => rfl

/-- The entries of a record are keyed by texts. -/
@[simp] lemma entityEntries_record (es : List (String × Value)) :
    entityEntries (record es) = .ok (es.map fun (k, v) => (.text k, v)) := rfl

/-- A field is read back. -/
lemma Field.ofData_toData (f : Field) : Field.ofData f.toData = .ok f := by
  simp [Field.ofData, Field.toData, Data.required, Outcome.ok_bind]

/-- An entity is read back in the place where it stood. -/
lemma Entity.PlacedIn.ofData_toData {e : Entity} {domain : String} {kind : TargetKind}
    (h : e.PlacedIn domain kind) : Entity.ofData kind (.text domain) e.toData = .ok e := by
  obtain ⟨rfl, rfl, hr⟩ := h
  have fields : (e.fields.map Field.toData).mapM Field.ofData = .ok e.fields :=
    Data.mapM_back fun f _ => f.ofData_toData
  have referenced : (e.referenced.map Value.text).mapM Data.text = .ok e.referenced :=
    Data.mapM_back fun _ _ => rfl
  obtain ⟨kind, name, domain, source, resource, fs, rs⟩ := e
  cases kind with
  | model =>
    -- A model has no key for the columns it refers to, so there must be none of them.
    cases hr rfl
    simp [Entity.ofData, Entity.toData, TargetKind.sourceKey, Data.required,
      fields, Outcome.ok_bind]
  | view =>
    simp [Entity.ofData, Entity.toData, texts, TargetKind.sourceKey, Data.required,
      fields, referenced, Outcome.ok_bind]

/-- A domain is read back under its name. -/
lemma Domain.Placed.ofData_toData {d : Domain} (h : d.Placed) :
    Domain.ofData (.text d.name) d.toData = .ok d := by
  have models : (d.models.map Entity.toData).mapM (Entity.ofData .model (.text d.name)) =
      .ok d.models :=
    Data.mapM_back fun e he => (h .model e he).ofData_toData
  have views : (d.views.map Entity.toData).mapM (Entity.ofData .view (.text d.name)) =
      .ok d.views :=
    Data.mapM_back fun e he => (h .view e he).ofData_toData
  simp [Domain.ofData, Domain.toData, models, views, Outcome.ok_bind]

/-- A catalog is read back as it was. -/
theorem Catalog.Placed.ofData_toData {c : Catalog} (h : c.Placed) :
    Catalog.ofData c.toData = .ok c := by
  have entries : (do Data.entries (← Data.get c.toData "domains")) =
      .ok (c.domains.map fun d => (Value.text d.name, d.toData)) := by
    simp [Catalog.toData, Outcome.ok_bind, Function.comp_def]
  have domains : (c.domains.map fun d => (Value.text d.name, d.toData)).mapM
      (Function.uncurry Domain.ofData) = .ok c.domains :=
    Data.mapM_back fun d hd => (h d hd).ofData_toData
  have version : Data.get c.toData "schema_version" = .ok (some (.int c.version)) := by
    simp [Catalog.toData]
  obtain ⟨body, found, entries⟩ := Outcome.bind_ok.1 entries
  rw [Catalog.ofData, found, Outcome.ok_bind, entries, Outcome.ok_bind]
  refine Outcome.bind_ok.2 ⟨c.domains, domains, ?_⟩
  rw [version]
  rfl

/-! ## Placed catalogs -/

/-- An entity that is read stands where it is read. -/
lemma Entity.placedIn_of_ofData {e : Entity} {kind : TargetKind} {domain v : Value} {name : String}
    (hd : Data.text domain = .ok name) (h : Entity.ofData kind domain v = .ok e) :
    e.PlacedIn name kind := by
  unfold Entity.ofData at h
  obtain ⟨es, _, h⟩ := Outcome.bind_ok.1 h
  obtain ⟨items, _, h⟩ := Outcome.bind_ok.1 h
  obtain ⟨fields, _, h⟩ := Outcome.bind_ok.1 h
  obtain ⟨listed, _, h⟩ := Outcome.bind_ok.1 h
  obtain ⟨_, _, h⟩ := Outcome.bind_ok.1 h
  dsimp only at h
  split at h
  · cases h
  · obtain ⟨_, _, h⟩ := Outcome.bind_ok.1 h
    obtain ⟨domain', hd', h⟩ := Outcome.bind_ok.1 h
    obtain ⟨_, _, h⟩ := Outcome.bind_ok.1 h
    obtain ⟨_, _, h⟩ := Outcome.bind_ok.1 h
    cases hd.symm.trans hd'
    cases kind with
    | model =>
      cases h
      exact ⟨rfl, rfl, fun _ => rfl⟩
    | view =>
      obtain ⟨_, _, h⟩ := Outcome.bind_ok.1 h
      cases h
      exact ⟨rfl, rfl, nofun⟩

/-- The entities of a domain that is read stand in it. -/
lemma Domain.placed_of_ofData {d : Domain} {name body : Value}
    (h : Domain.ofData name body = .ok d) : d.Placed := by
  unfold Domain.ofData at h
  obtain ⟨es, _, h⟩ := Outcome.bind_ok.1 h
  obtain ⟨modelItems, _, h⟩ := Outcome.bind_ok.1 h
  obtain ⟨models, hm, h⟩ := Outcome.bind_ok.1 h
  obtain ⟨viewItems, _, h⟩ := Outcome.bind_ok.1 h
  obtain ⟨views, hv, h⟩ := Outcome.bind_ok.1 h
  obtain ⟨n, hn, h⟩ := Outcome.bind_ok.1 h
  cases h
  intro k e he
  cases k with
  | model =>
    obtain ⟨v, _, hr⟩ := exists_of_forall₂ (Outcome.mapM_ok.1 hm) he
    exact Entity.placedIn_of_ofData hn hr
  | view =>
    obtain ⟨v, _, hr⟩ := exists_of_forall₂ (Outcome.mapM_ok.1 hv) he
    exact Entity.placedIn_of_ofData hn hr

/-- The entities of a catalog that is read stand where they say. -/
lemma Catalog.placed_of_ofData {c : Catalog} {v : Value} (h : Catalog.ofData v = .ok c) :
    c.Placed := by
  unfold Catalog.ofData at h
  obtain ⟨found, _, h⟩ := Outcome.bind_ok.1 h
  obtain ⟨es, _, h⟩ := Outcome.bind_ok.1 h
  obtain ⟨domains, hd, h⟩ := Outcome.bind_ok.1 h
  obtain ⟨version, _, h⟩ := Outcome.bind_ok.1 h
  have read : ∀ d ∈ domains, d.Placed := by
    intro d hm
    obtain ⟨⟨name, body⟩, _, hr⟩ := exists_of_forall₂ (Outcome.mapM_ok.1 hd) hm
    exact Domain.placed_of_ofData hr
  cases version with
  | none =>
    cases h
    exact read
  | some n =>
    obtain ⟨_, _, h⟩ := Outcome.bind_ok.1 h
    cases h
    exact read

/-- The entities of a compiled catalog stand where they say. -/
lemma compileSchemas_placed {settings : CompileSettings} {schemas : List Sql.Schema} {c : Catalog}
    (h : compileSchemas settings schemas = .ok c) : c.Placed := by
  intro d hd k e he
  have sound := (compileSchemas_sound h).domains d hd
  refine ⟨sound.domain_eq k e he, sound.kind_eq k e he, fun model => ?_⟩
  obtain ⟨table, ht⟩ | ⟨view, rs, hv⟩ :=
    compileSchemas_made h (Catalog.mem_entities.2 ⟨d, hd, k, he⟩)
  · obtain ⟨_, rfl⟩ := compileTable_ok.1 ht
    rfl
  · have view := (compileView_formed hv).kind_eq
    cases model.symm.trans view

/-- A compiled catalog is read back from its data as it was, and what is read back serves as well as
the catalog: as the one before in a later compilation, and to check and to bind a book against. -/
theorem compileSchemas_reload {settings : CompileSettings} {schemas : List Sql.Schema} {c : Catalog}
    (h : compileSchemas settings schemas = .ok c) :
    Catalog.ofData c.toData = .ok c ∧
      (∀ (next : CompileSettings) later,
        (do
          let p ← Catalog.ofData c.toData
          compileSchemas { next with previous := some p } later) =
            compileSchemas { next with previous := some c } later) ∧
      ∀ book : Book,
        (do let d ← Catalog.ofData c.toData; book.check d) = book.check c ∧
          (do let d ← Catalog.ofData c.toData; book.bind d) = book.bind c := by
  have back := (compileSchemas_placed h).ofData_toData
  refine ⟨back, fun next later => ?_, fun book => ⟨?_, ?_⟩⟩
  all_goals rw [back, Outcome.ok_bind]

namespace Orders

/-- The lines of orders, with a key of two columns. -/
def lines : Sql.Table where
  name := "order_lines"
  domain := some "sales"
  columns := [
    { name := "order_id", nativeType := "INT", type := .int32, nullable := false, isKey := true
      keyPosition := some 1 },
    { name := "line_no", nativeType := "INT", type := .int32, nullable := false, isKey := true
      keyPosition := some 2 },
    { name := "price", nativeType := "DECIMAL(10,2)", type := .decimal, precision := some 10
      scale := some 2 }]
  source := none
  line := 1

/-- The limits that prices are held against. -/
def limits : Sql.Table where
  name := "limits"
  domain := some "sales"
  columns := [{ name := "amount", nativeType := "INT", type := .int32 }]
  source := none
  line := 6

/-- The limits that a price is above, where the price is used but not shown. -/
def exceeded : Sql.View where
  name := "exceeded_limits"
  domain := some "sales"
  projections := [{ expression := "limits.*", givenName := none, offset := 0 }]
  sources := [{ table := "limits", givenName := none },
    { table := "order_lines", givenName := none }]
  columnNames := none
  filters := ["price > amount"]
  source := none
  text := []
  offset := 0
  line := 8

/-- The schema of all three. -/
def schema : Sql.Schema where
  tables := [lines, limits]
  views := [exceeded]

/-- The domains go by the markers. -/
def settings : CompileSettings where
  defaultDomain := "default"

/-- The model of the lines. -/
def lineModel : Entity where
  kind := .model
  name := "OrderLine"
  domain := "sales"
  sourceName := "order_lines"
  resource := "order-lines"
  fields := [
    { name := "order_id", type := .int32, nullable := false, isKey := true, ordinal := 1
      keyPosition := some 1 },
    { name := "line_no", type := .int32, nullable := false, isKey := true, ordinal := 2
      keyPosition := some 2 },
    { name := "price", type := .decimal, ordinal := 3, precision := some 10, scale := some 2 }]

/-- The model of the limits. -/
def limitModel : Entity where
  kind := .model
  name := "Limit"
  domain := "sales"
  sourceName := "limits"
  resource := "limits"
  fields := [{ name := "amount", type := .int32, ordinal := 1 }]

/-- The view of those exceeded. -/
def exceededView : Entity where
  kind := .view
  name := "ExceededLimits"
  domain := "sales"
  sourceName := "exceeded_limits"
  resource := "exceeded-limits"
  fields := [{ name := "amount", type := .int32, ordinal := 1 }]
  referenced := ["order_lines.price"]

/-- The catalog of the schema. -/
def catalog : Catalog where
  domains := [{ name := "sales", models := [lineModel, limitModel], views := [exceededView] }]

/-- The schema compiles to the catalog. -/
lemma compiled : compileSchemas settings [schema] = .ok catalog := by decide +kernel

/-- Models and view are read back, and compiled after what is read back they are the same again. -/
theorem catalog_reload :
    compileSchemas settings [schema] = .ok catalog ∧ Catalog.ofData catalog.toData = .ok catalog ∧
      (do
        let p ← Catalog.ofData catalog.toData
        compileSchemas { settings with previous := some p } [schema]) = .ok catalog := by
  obtain ⟨back, again, -⟩ := compileSchemas_reload compiled
  refine ⟨compiled, back, ?_⟩
  rw [again settings [schema]]
  decide +kernel

end Orders
end Rulebook
