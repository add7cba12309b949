import Rulebook.Proofs.Outcome
import Rulebook.Rule.Registry.Document

/-!
# Registries that are read

A registry that is read has its categories under distinct names, and each category has the fields
that the entries of its definition declare, in their order (`Registry.ofDocument_declared`). A
document is rejected if the name of a field is written as a text and a field before it in the
category has that name. So the fields of a category have distinct names where the names are written
as texts. A name of another type equals no text, so that it can be declared twice
(`Grades.one_twice`).
-/

namespace Rulebook.Registry

variable {source : Option String} {category : String}

/-! ## What documents declare -/

/-- The name and the type in an entry for a field. -/
def parts? : Value → Option (Value × Value)
  | .mapping es => (Value.lookup? "name" es).bind fun n => (Value.lookup? "type" es).map (n, ·)
  | _ => none

/-- An entry declares a field. -/
inductive Declares (entry : Value) : ContextField → Prop where
  | field {name type t} :
    parts? entry = some (name, type) →
    ScalarType.ofSpelling? type.shown = some t →
    Declares entry ⟨name.shown, t⟩

/-- The name in an entry, if it is written as a text. -/
def textName? (entry : Value) : Option String := (parts? entry).bind fun p => p.1.text?

/-- An entry has as a text the name of the field that an entry before it declares. -/
def Repeats (entry later : Value) : Prop := ∃ f, Declares entry f ∧ textName? later = some f.name

/-- No entry repeats the name of one before it. -/
def Fresh (entries : List Value) : Prop := entries.Pairwise fun entry later => ¬Repeats entry later

/-- What a definition says; one that is vacant says nothing. -/
def settings : Value → List (Value × Value)
  | .mapping es => es
  | _ => []

/-- The entries for fields in a definition. -/
def listed (definition : Value) : Outcome (List Value) :=
  Data.items (Value.lookup? "fields" (settings definition))

/-- The definitions of a document by their keys. -/
def definitions? (document : Value) : Option (List (Value × Value)) :=
  match (if document.isVacant then .mapping [] else document) with
  | .mapping es =>
    match (Value.lookup? "metadata" es).getD (.mapping es) with
    | .mapping body => some body
    | _ => none
  | _ => none

/-- A category is made of the last definition whose key becomes its name. -/
inductive Defined (body : List (Value × Value)) (c : Category) (entries : List Value) : Prop where
  | last {before key definition after} :
    body = before ++ (key, definition) :: after →
    key.shown = c.name →
    (∀ e ∈ after, e.1.shown ≠ c.name) →
    listed definition = .ok entries →
    Defined body c entries

/-- What a document is rejected for: its form, a type that is not known, or fields that
cannot be gone through. -/
inductive Refused (source : Option String) (body : List (Value × Value)) : Failure → Prop where
  | malformed {fault line} :
    fault.kind = .malformed →
    Refused source body (.diagnostic ⟨.registry fault, .atLine source line, none⟩)
  | mistyped {key definition entries entry name type} :
    (key, definition) ∈ body →
    listed definition = .ok entries →
    entry ∈ entries →
    parts? entry = some (name, type) →
    ScalarType.ofSpelling? type.shown = none →
    Refused source body
      (.diagnostic ⟨.registry (.unknownType key.shown name.shown type.shown),
        .atLine source none, none⟩)
  | unlisted {key definition e} :
    (key, definition) ∈ body →
    listed definition = .error e →
    Refused source body e

/-! ## Fields -/

/-- An entry declares one field only. -/
lemma Declares.unique {entry : Value} {f g : ContextField} (hf : Declares entry f)
    (hg : Declares entry g) : f = g := by
  obtain ⟨parts, known⟩ := hf
  obtain ⟨parts', known'⟩ := hg
  cases parts.symm.trans parts'
  cases known.symm.trans known'
  rfl

/-- The name of a field that is written as a text is that text. -/
lemma Declares.name {entry : Value} {f : ContextField} (h : Declares entry f) {s : String}
    (named : textName? entry = some s) : f.name = s := by
  cases h with
  | @field name type t parts known =>
    rw [textName?, parts] at named
    cases name with
    | text s' => exact Option.some.inj named
    | _ => cases named

/-- What becomes of an entry depends on the name and the type in it. -/
lemma readFields_cons (fields : List ContextField) (entry : Value) (rest : List Value) :
    readFields source category fields (entry :: rest) =
      match parts? entry with
      | none => refuse source (.incompleteField category)
      | some (name, type) =>
        match ScalarType.ofSpelling? type.shown with
        | none => refuse source (.unknownType category name.shown type.shown)
        | some t =>
          if isDeclared fields name then refuse source (.fieldTwice category name.shown)
          else readFields source category (fields ++ [⟨name.shown, t⟩]) rest := by
  cases entry <;> rfl

/-- An entry is accepted if it declares a field, and no field before it has its
name as it is written. -/
lemma readFields_cons_ok {fields fields' : List ContextField} {entry : Value} {rest : List Value} :
    readFields source category fields (entry :: rest) = .ok fields' ↔
      ∃ f, Declares entry f ∧ (∀ g ∈ fields, textName? entry ≠ some g.name) ∧
        readFields source category (fields ++ [f]) rest = .ok fields' := by
  have fresh {name type : Value} (parts : parts? entry = some (name, type)) :
      isDeclared fields name = false ↔ ∀ g ∈ fields, textName? entry ≠ some g.name := by
    simp [isDeclared, textName?, parts]
  rw [readFields_cons]
  constructor
  · intro h
    split at h
    · cases h
    · rename_i name type parts
      split at h
      · cases h
      · rename_i t known
        split at h
        · cases h
        · rename_i new
          exact ⟨_, .field parts known, (fresh parts).1 (by simpa using new), h⟩
  · rintro ⟨f, ⟨parts, known⟩, new, h⟩
    simp only [parts, known, (fresh parts).2 new]
    exact h

/-- The entries that are accepted after some fields declare the fields that are added, and none has
as a text the name of a field before it. -/
lemma readFields_ok {entries : List Value} : ∀ {fields fields' : List ContextField},
    readFields source category fields entries = .ok fields' ↔
      ∃ new, fields' = fields ++ new ∧ List.Forall₂ Declares entries new ∧ Fresh entries ∧
        ∀ entry ∈ entries, ∀ g ∈ fields, textName? entry ≠ some g.name := by
  induction entries with
  | nil =>
    intro fields fields'
    constructor
    · intro h
      cases h
      exact ⟨[], by simp, .nil, .nil, List.forall_mem_nil _⟩
    · rintro ⟨new, rfl, declared, -⟩
      cases declared
      exact congrArg Except.ok (List.append_nil fields).symm
  | cons entry entries ih =>
    intro fields fields'
    rw [readFields_cons_ok]
    constructor
    · rintro ⟨f, hf, first, h⟩
      obtain ⟨new, rfl, declared, fresh, others⟩ := ih.1 h
      refine ⟨f :: new, by simp, .cons hf declared, List.pairwise_cons.2 ⟨?_, fresh⟩,
        List.forall_mem_cons.2 ⟨first, fun later hl g hg =>
          others later hl g (List.mem_append_left _ hg)⟩⟩
      rintro later hl ⟨f', hf', same⟩
      cases hf.unique hf'
      exact others later hl f (List.mem_append_right _ (.head _)) same
    · rintro ⟨_ | ⟨f, new⟩, rfl, declared, fresh, others⟩
      · cases declared
      · obtain ⟨hf, declared⟩ := List.forall₂_cons.1 declared
        obtain ⟨first, fresh⟩ := List.pairwise_cons.1 fresh
        obtain ⟨other, others⟩ := List.forall_mem_cons.1 others
        refine ⟨f, hf, other, ih.2 ⟨new, by simp, declared, fresh, fun later hl => ?_⟩⟩
        exact List.forall_mem_append.2 ⟨others later hl, List.forall_mem_singleton.2 fun same =>
          first later hl ⟨f, hf, same⟩⟩

/-- Entries are rejected for their form or for a type that is not known. -/
lemma readFields_refused {key definition : Value} {body : List (Value × Value)} {all : List Value}
    (hd : (key, definition) ∈ body) (hl : listed definition = .ok all) {entries : List Value}
    (sub : entries ⊆ all) :
    ∀ fields, Outcome.FailsAs (Refused source body)
    (readFields source key.shown fields entries) := by
  induction entries with
  | nil => exact fun fields => .ok fields
  | cons entry entries ih =>
    obtain ⟨he, sub⟩ := List.cons_subset.1 sub
    intro fields
    rw [readFields_cons]
    split
    · exact .reject (.malformed rfl)
    · rename_i name type parts
      split
      · rename_i unknown
        exact .reject (.mistyped hd hl he parts unknown)
      · split
        · exact .reject (.malformed rfl)
        · exact ih sub _

/-- Fields have distinct names if none of their entries repeats a name, and all of them
have theirs as texts. -/
lemma nodup_of_fresh {entries : List Value} {fields : List ContextField}
    (declared : List.Forall₂ Declares entries fields) (fresh : Fresh entries)
    (texts : ∀ entry ∈ entries, (textName? entry).isSome) : (fields.map (·.name)).Nodup := by
  induction declared with
  | nil => exact .nil
  | @cons entry f entries fields hf declared ih =>
    obtain ⟨first, fresh⟩ := List.pairwise_cons.1 fresh
    obtain ⟨-, texts⟩ := List.forall_mem_cons.1 texts
    refine List.nodup_cons.2 ⟨fun old => ?_, ih fresh texts⟩
    obtain ⟨g, hg, same⟩ := List.mem_map.1 old
    obtain ⟨later, hl, hlater⟩ := exists_of_forall₂ declared hg
    obtain ⟨s, hs⟩ := Option.isSome_iff_exists.1 (texts later hl)
    exact first later hl ⟨f, hf, by rw [hs, ← hlater.name hs, same]⟩

/-! ## Categories -/

/-- Reads the fields of a category that is enabled or not. -/
def readListed (source : Option String) (name : String) (definition : Value) (enabled : Bool) :
    Outcome Category := do
  let entries ← listed definition
  let fields ← readFields source name [] entries
  .ok { name, enabled, fields }

/-- A definition is rejected for its form, or the fields that are listed in it are read. -/
lemma readCategory_cases (source : Option String) (name : String) (definition : Value) :
    (∃ fault : RegistryFault, fault.kind = .malformed ∧
      readCategory source name definition = refuse source fault) ∨
      ∃ enabled, readCategory source name definition =
      readListed source name definition enabled := by
  unfold readCategory
  dsimp only
  split
  · simp only [Outcome.ok_bind]
    split
    · exact .inr ⟨_, rfl⟩
    · exact .inr ⟨_, rfl⟩
    · exact .inl ⟨_, rfl, rfl⟩
  · rename_i other
    split
    · refine .inr ⟨true, ?_⟩
      cases definition with
      | mapping es => exact absurd rfl (other es)
      | _ => rfl
    · exact .inl ⟨_, rfl, rfl⟩

/-- A category that is accepted has the fields that are listed for it. -/
lemma readCategory_ok {name : String} {definition : Value} {c : Category}
    (h : readCategory source name definition = .ok c) :
    c.name = name ∧
      ∃ entries, listed definition = .ok entries ∧ List.Forall₂ Declares entries c.fields ∧
      Fresh entries := by
  obtain ⟨fault, -, refused⟩ | ⟨enabled, read⟩ := readCategory_cases source name definition
  · rw [refused] at h
    cases h
  · rw [read] at h
    obtain ⟨entries, listed, h⟩ := Outcome.bind_ok.1 h
    obtain ⟨fields, read, h⟩ := Outcome.bind_ok.1 h
    cases h
    obtain ⟨new, rfl, declared, fresh, -⟩ := readFields_ok.1 read
    exact ⟨rfl, entries, listed, declared, fresh⟩

/-- A definition of the document is rejected for what the document may be rejected for. -/
lemma readCategory_refused {key definition : Value} {body : List (Value × Value)}
    (hd : (key, definition) ∈ body) :
    Outcome.FailsAs (Refused source body) (readCategory source key.shown definition) := by
  obtain ⟨fault, form, refused⟩ | ⟨enabled, read⟩ := readCategory_cases source key.shown definition
  · rw [refused]
    exact .reject (.malformed form)
  · rw [read]
    refine .bind (fun e failed => .unlisted hd failed) fun entries hl => ?_
    exact .bind (readFields_refused hd hl (List.Subset.refl _) []) fun fields _ => .ok _

/-- A category that is put among others is one of them, and takes the place of one of its name. -/
lemma mem_insert {c d : Category} {cs : List Category} (names : (cs.map (·.name)).Nodup)
    (h : d ∈ insert c cs) :
    d = c ∨ d ∈ cs ∧ d.name ≠ c.name := by
  induction cs with
  | nil => exact .inl (List.mem_singleton.1 h)
  | cons e cs ih =>
    obtain ⟨first, names⟩ := List.nodup_cons.1 names
    rw [insert] at h
    split at h
    · rename_i same
      obtain rfl | h := List.mem_cons.1 h
      · exact .inl rfl
      · exact .inr ⟨.tail _ h, fun named => first (List.mem_map.2 ⟨d, h, named.trans same.symm⟩)⟩
    · rename_i other
      obtain rfl | h := List.mem_cons.1 h
      · exact .inr ⟨.head _, other⟩
      · exact (ih names h).imp_right fun old => ⟨.tail _ old.1, old.2⟩

/-- Names stay distinct when a category is put among others. -/
lemma nodup_insert {c : Category} {cs : List Category} (names : (cs.map (·.name)).Nodup) :
    ((insert c cs).map (·.name)).Nodup := by
  induction cs with
  | nil => exact List.nodup_singleton _
  | cons d cs ih =>
    obtain ⟨first, rest⟩ := List.nodup_cons.1 names
    rw [insert]
    split
    · rename_i same
      rw [List.map_cons, ← same]
      exact names
    · rename_i other
      refine List.nodup_cons.2 ⟨fun old => ?_, ih rest⟩
      obtain ⟨e, he, same⟩ := List.mem_map.1 old
      obtain rfl | ⟨he, -⟩ := mem_insert rest he
      · exact other same.symm
      · exact first (List.mem_map.2 ⟨e, he, same⟩)

/-- The categories that are read have distinct names. Each definition is accepted on its own, and
each category is that of the last definition of its name, unless it was there before. -/
lemma readCategories_ok {body : List (Value × Value)} :
    ∀ {cs cs' : List Category}, (cs.map (·.name)).Nodup → readCategories source cs body = .ok cs' →
      (cs'.map (·.name)).Nodup ∧ (∀ e ∈ body, ∃ c, readCategory source e.1.shown e.2 = .ok c) ∧
        ∀ c ∈ cs', (c ∈ cs ∧ ∀ e ∈ body, e.1.shown ≠ c.name) ∨
          ∃ before key definition after, body = before ++ (key, definition) :: after ∧
            readCategory source key.shown definition = .ok c ∧ ∀ e ∈ after, e.1.shown ≠ c.name := by
  induction body with
  | nil =>
    intro cs cs' names h
    cases h
    exact ⟨names, List.forall_mem_nil _, fun c hc => .inl ⟨hc, List.forall_mem_nil _⟩⟩
  | cons e body ih =>
    intro cs cs' names h
    obtain ⟨key, definition⟩ := e
    obtain ⟨c, hc, h⟩ := Outcome.bind_ok.1 h
    obtain ⟨names', each, from_⟩ := ih (nodup_insert names) h
    refine ⟨names', List.forall_mem_cons.2 ⟨⟨c, hc⟩, each⟩, fun d hd => ?_⟩
    obtain ⟨old, other⟩ | ⟨before, key', definition', after, rfl, hd, last⟩ := from_ d hd
    · obtain rfl | ⟨old, ne⟩ := mem_insert names old
      · exact .inr ⟨[], key, definition, body, rfl, hc, other⟩
      · refine .inl ⟨old, List.forall_mem_cons.2 ⟨fun same => ne ?_, other⟩⟩
        rw [(readCategory_ok hc).1, ← same]
    · exact .inr ⟨(key, definition) :: before, key', definition', after, rfl, hd, last⟩

/-- Where there are no categories before, each is that of the last definition of its name. -/
lemma readCategories_start {body : List (Value × Value)} {cs : List Category}
    (h : readCategories source [] body = .ok cs) :
    (cs.map (·.name)).Nodup ∧ (∀ e ∈ body, ∃ c, readCategory source e.1.shown e.2 = .ok c) ∧
      ∀ c ∈ cs, ∃ before key definition after, body = before ++ (key, definition) :: after ∧
        readCategory source key.shown definition = .ok c ∧ ∀ e ∈ after, e.1.shown ≠ c.name := by
  have start : (([] : List Category).map (·.name)).Nodup := List.nodup_nil
  obtain ⟨names, each, made⟩ := readCategories_ok start h
  refine ⟨names, each, fun c hc => (made c hc).resolve_left ?_⟩
  rintro ⟨old, -⟩
  cases old

/-- Definitions of a document are rejected for what the document may be rejected for. -/
lemma readCategories_refused {all body : List (Value × Value)} (sub : body ⊆ all) :
    ∀ cs, Outcome.FailsAs (Refused source all) (readCategories source cs body) := by
  induction body with
  | nil => exact fun cs => .ok cs
  | cons e body ih =>
    obtain ⟨he, sub⟩ := List.cons_subset.1 sub
    exact fun cs => .bind (readCategory_refused he) fun c _ => ih sub _

/-! ## Documents -/

variable {document : Value} {registry : Registry}

/-- A document has no definitions and is rejected, or its categories are read from them. -/
lemma ofDocument_cases (source : Option String) (document : Value) :
    (∃ body, definitions? document = some body ∧
      ofDocument source document = (readCategories source [] body).map .mk) ∨
    definitions? document = none ∧ ∃ e, ofDocument source document = .error e := by
  unfold ofDocument definitions?
  cases (if document.isVacant then Value.mapping [] else document) with
  | mapping es =>
    dsimp only
    cases (Value.lookup? "metadata" es).getD (.mapping es) with
    | mapping body => exact .inl ⟨body, rfl, rfl⟩
    | _ => exact .inr ⟨rfl, _, rfl⟩
  | _ => exact .inr ⟨rfl, _, rfl⟩

/-- The categories of a registry are those that are read from the definitions of its document. -/
lemma ofDocument_ok (h : ofDocument source document = .ok registry) :
    ∃ body, definitions? document = some body ∧
    readCategories source [] body = .ok registry.categories := by
  obtain ⟨body, hb, read⟩ | ⟨-, e, failed⟩ := ofDocument_cases source document
  · obtain ⟨cs, hcs, rfl⟩ := Outcome.map_ok.1 (read.symm.trans h)
    exact ⟨body, hb, hcs⟩
  · cases failed.symm.trans h

/-- The categories of a registry have distinct names. -/
lemma nodup_of_ofDocument (h : ofDocument source document = .ok registry) :
    (registry.categories.map (·.name)).Nodup := by
  obtain ⟨body, -, read⟩ := ofDocument_ok h
  exact (readCategories_start read).1

/-- A document is rejected for its form, for a type that is not known, or for fields that
cannot be gone through. -/
lemma ofDocument_refused {body : List (Value × Value)} (hb : definitions? document = some body) :
    Outcome.FailsAs (Refused source body) (ofDocument source document) := by
  obtain ⟨body', hb', read⟩ | ⟨none, -⟩ := ofDocument_cases source document
  · cases hb.symm.trans hb'
    rw [read]
    exact .map (readCategories_refused (List.Subset.refl _) []) _
  · cases hb.symm.trans none

/-- The fields of a category are told apart by their names as they are written. A registry that is
read has its categories under distinct names. Each is made of the last definition of its name, and
has the fields that the entries of the definition declare, in their order; no entry has as a text
the name that an entry before it declares. So if all names in the entries are texts, the fields have
distinct names, and the type of the only field of a name is the one that is found. Any document in
which an entry does have such a name is rejected, for its form unless there is a type that is not
known, or something other than a list of fields. -/
theorem ofDocument_declared (source : Option String) (document : Value) :
    (∀ registry, ofDocument source document = .ok registry →
      (registry.categories.map (·.name)).Nodup ∧
      ∀ c ∈ registry.categories, registry.category? c.name = some c ∧
        ∃ body entries, definitions? document = some body ∧ Defined body c entries ∧
          List.Forall₂ Declares entries c.fields ∧ Fresh entries ∧
          ((∀ entry ∈ entries, (textName? entry).isSome) →
            (c.fields.map (·.name)).Nodup ∧
            ∀ f ∈ c.fields, registry.fieldType? c.name f.name = some f.type)) ∧
    ∀ body, definitions? document = some body → ∀ d ∈ body, ∀ entries,
    listed d.2 = .ok entries → ¬Fresh entries →
      ∃ e, ofDocument source document = .error e ∧ Refused source body e := by
  refine ⟨fun registry h => ?_, fun body hb d hd entries hl repeated => ?_⟩
  · obtain ⟨body, hb, read⟩ := ofDocument_ok h
    obtain ⟨names, -, made⟩ := readCategories_start read
    refine ⟨names, fun c hc => ?_⟩
    have found : registry.category? c.name = some c := find?_of_nodup_map names hc
    obtain ⟨before, key, definition, after, whole, made, last⟩ := made c hc
    obtain ⟨name, entries, hl, declared, fresh⟩ := readCategory_ok made
    refine ⟨found, body, entries, hb, .last whole name.symm last hl, declared,
      fresh, fun texts => ?_⟩
    have distinct := nodup_of_fresh declared fresh texts
    refine ⟨distinct, fun f hf => ?_⟩
    have field : c.field? f.name = some f := find?_of_nodup_map distinct hf
    rw [fieldType?, found, Option.bind_some, field, Option.map_some]
  · cases h : ofDocument source document with
    | error e => exact ⟨e, rfl, ofDocument_refused hb e h⟩
    | ok registry =>
      obtain ⟨body', hb', read⟩ := ofDocument_ok h
      cases hb.symm.trans hb'
      obtain ⟨-, accepted, -⟩ := readCategories_start read
      obtain ⟨c, hc⟩ := accepted d hd
      obtain ⟨-, entries', hl', -, fresh⟩ := readCategory_ok hc
      cases hl.symm.trans hl'
      exact absurd fresh repeated

end Rulebook.Registry

namespace Rulebook.Grades
open Registry

/-- An entry for a field. -/
def entry (name : Value) (type : String) : Value :=
  .mapping [(.text "name", name), (.text "type", .text type)]

/-- A document with the entries for one category. -/
def document (entries : List Value) : Value :=
  .mapping [(.text "roles", .mapping [(.text "fields", .list entries)])]

/-- A registry with the fields of one category. -/
def registry (fields : List ContextField) : Registry where
  categories := [{ name := "roles", fields }]

/-- Two names that are texts. -/
def named : List Value := [entry (.text "level") "int", entry (.text "admin") "boolean"]

/-- A name that is a number, and the text that it becomes. -/
def numbered : List Value := [entry (.int 1) "int", entry (.text "1") "string"]

/-- Names that are texts are told apart, and a text that is the name of a field
before it is rejected. -/
theorem named_declared :
    ofDocument none (document named) = .ok (registry [⟨"level", .int32⟩, ⟨"admin", .bool⟩]) ∧
    (registry [⟨"level", .int32⟩, ⟨"admin", .bool⟩]).fieldType? "roles" "admin" = some .bool ∧
    ∃ e, ofDocument none (document numbered) = .error e := by
  have read : ofDocument none (document named) =
      .ok (registry [⟨"level", .int32⟩, ⟨"admin", .bool⟩]) := by
    decide +kernel
  have repeated : ¬Fresh numbered := by
    intro fresh
    have one : Declares (entry (.int 1) "int") ⟨"1", .int32⟩ :=
      @Declares.field _ (.int 1) (.text "int") _ rfl (by decide)
    exact (List.pairwise_cons.1 fresh).1 _ (.head _) ⟨_, one, rfl⟩
  refine ⟨read, ?_, ?_⟩
  · obtain ⟨-, categories⟩ := (ofDocument_declared none (document named)).1 _ read
    obtain ⟨-, body, entries, hb, ⟨whole, -, -, hl⟩, -, -, fields⟩ := categories _ (.head _)
    cases hb
    obtain ⟨-, only⟩ | ⟨-, none⟩ := List.append_eq_singleton_iff.1 whole.symm
    · cases only
      cases hl
      exact (fields (by decide)).2 _ (.tail _ (.head _))
    · cases none
  · obtain ⟨-, rejected⟩ := ofDocument_declared none (document numbered)
    obtain ⟨e, he, -⟩ := rejected _ rfl _ (.head _) _ rfl repeated
    exact ⟨e, he⟩

/-- A number that is a name twice declares two fields of one name. -/
theorem one_twice : ¬ ∀ (source : Option String) (document : Value) (registry : Registry),
    ofDocument source document = .ok registry → ∀ c ∈ registry.categories,
    (c.fields.map (·.name)).Nodup := by
  intro h
  have read : ofDocument none (document [entry (.int 1) "int", entry (.int 1) "string"]) =
      .ok (registry [⟨"1", .int32⟩, ⟨"1", .string⟩]) := by decide +kernel
  exact absurd (h _ _ _ read _ (.head _)) (by decide)

end Rulebook.Grades
