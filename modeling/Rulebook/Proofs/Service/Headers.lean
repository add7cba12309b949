import Rulebook.Proofs.Rule.Registry
import Rulebook.Proofs.Service.Context

/-!
# What a header feeds

A header changes only the fields that it feeds: those whose headers have its name
(`Header.context_added`). The name of the header for a field joins two names with the hyphen that
also stands within them, so that the header can be the one for several fields
(`Header.nameOf_eq_iff`, `Gates.level_shared`). Where the fields of a registry have headers of their
own, a header feeds one field at most.
-/

namespace Rulebook

/-- What a context has for a category. -/
def Value.entryOf (context : Value) (category : String) : Option Value :=
  match context with
  | .mapping es => lookup? category es
  | _ => none

/-- The fields of enabled categories have headers of their own. -/
def Registry.Apart (registry : Registry) : Prop :=
  ∀ c ∈ registry.categories, c.enabled = true → ∀ f ∈ c.fields,
    ∀ d ∈ registry.categories, d.enabled = true → ∀ g ∈ d.fields,
      Header.nameOf c.name f.name = Header.nameOf d.name g.name → c.name = d.name ∧ f.name = g.name

namespace Header
open Number Text

/-- A header feeds a field of an enabled category if it has the name of the header for the field, in
letters of any case. -/
structure Feeds (registry : Registry) (header : String) (c : Category) (f : ContextField) :
    Prop where
  category : c ∈ registry.categories
  enabled : c.enabled = true
  field : f ∈ c.fields
  name : nameOf c.name f.name = String.ofList (lower header.toList)

/-- Two fields have one header: the names of their categories are spelled alike, and theirs too, or
the category of one of them goes on where the other one's field has begun. -/
inductive Clash (category field category' field' : String) : Prop where
  | alike :
    hyphenated category = hyphenated category' →
    hyphenated field = hyphenated field' →
    Clash category field category' field'
  | longer {m} :
    hyphenated category = hyphenated category' ++ '-' :: m →
    hyphenated field' = m ++ '-' :: hyphenated field →
    Clash category field category' field'
  | shorter {m} :
    hyphenated category' = hyphenated category ++ '-' :: m →
    hyphenated field = m ++ '-' :: hyphenated field' →
    Clash category field category' field'

/-! ## Names of headers -/

/-- Two texts with a mark between them can be joined alike in three ways. -/
lemma append_mark_eq {x : Char} {a b a' b' : List Char} (h : a ++ x :: b = a' ++ x :: b') :
    (a = a' ∧ b = b') ∨ (∃ m, a = a' ++ x :: m ∧ b' = m ++ x :: b) ∨ ∃ m, a' = a ++ x :: m ∧
    b = m ++ x :: b' := by
  obtain ⟨m, long, rest⟩ | ⟨m, long, rest⟩ := List.append_eq_append_iff.1 h
  · obtain _ | ⟨y, m⟩ := m
    · cases rest
      exact .inl ⟨(long.trans (List.append_nil a)).symm, rfl⟩
    · cases rest
      exact .inr (.inr ⟨m, long, rfl⟩)
  · obtain _ | ⟨y, m⟩ := m
    · cases rest
      exact .inl ⟨long.trans (List.append_nil a'), rfl⟩
    · cases rest
      exact .inr (.inl ⟨m, long, rfl⟩)

/-- Two fields have one header exactly if their names clash. -/
lemma nameOf_eq_iff {category field category' field' : String} :
    nameOf category field = nameOf category' field' ↔ Clash category field category' field' := by
  rw [nameOf, nameOf, String.ofList_inj, List.append_assoc, List.append_assoc,
    List.append_cancel_left_eq]
  constructor
  · intro h
    obtain ⟨category, field⟩ | ⟨m, category, field⟩ | ⟨m, category, field⟩ := append_mark_eq h
    · exact .alike category field
    · exact .longer category field
    · exact .shorter category field
  · rintro (⟨category, field⟩ | ⟨category, field⟩ | ⟨category, field⟩) <;> simp [category, field]

/-! ## Headers by name -/

variable {registry : Registry} {before after headers headers' : List (String × String)}
  {header value : String}

/-- A further header is found under its name, unless another one hides it; under other
names nothing changes. -/
lemma lookup_byName (before after : List (String × String)) (header value name : String) :
    (byName (before ++ (header, value) :: after)).lookup name =
    (byName (before ++ after)).lookup name ∨
      name = String.ofList (lower header.toList) ∧
        (byName (before ++ (header, value) :: after)).lookup name = some value := by
  simp only [byName, List.reverse_append, List.reverse_cons, List.map_append, List.map_cons,
    List.append_assoc, List.singleton_append, List.lookup_append, List.lookup_cons]
  cases (after.reverse.map _).lookup name with
  | some v => exact .inl rfl
  | none =>
    simp only [Option.none_or]
    split
    · rename_i same
      exact .inr ⟨eq_of_beq same, rfl⟩
    · exact .inl rfl

/-! ## Entries for fields -/

/-- The entries for one field. -/
def sent (headers : List (String × String)) (category : String) (f : ContextField) :
    Outcome (List (Value × Value)) :=
  match headers.lookup (nameOf category f.name) with
  | none => .ok []
  | some raw =>
    match readValue raw f.type with
    | .ok v => .ok [(.text f.name, v)]
    | .error reason => .error (.refused 400 s!"Header {nameOf category f.name}: {reason}")

/-- The entries of the fields of a category follow one another. -/
lemma fieldsOf_cons (headers : List (String × String)) (category : String) (f : ContextField)
    (fs : List ContextField) :
    fieldsOf headers category (f :: fs) =
      sent headers category f >>= fun own => fieldsOf headers category fs >>= fun more =>
      .ok (own ++ more) := by
  rw [fieldsOf, sent]
  cases headers.lookup (nameOf category f.name) with
  | none => rfl
  | some raw =>
    dsimp only
    cases readValue raw f.type <;> rfl

/-- What is sent for fields is what is sent for each of them. -/
lemma fieldsOf_eq (headers : List (String × String)) (category : String) (fs : List ContextField) :
    fieldsOf headers category fs = List.flatten <$> fs.mapM (sent headers category) := by
  induction fs with
  | nil => rfl
  | cons f fs ih =>
    rw [fieldsOf_cons, List.mapM_cons, ih]
    cases sent headers category f with
    | error e => rfl
    | ok own => cases fs.mapM (sent headers category) <;> rfl

/-- Nothing fails for a field if nothing fails for all of them. -/
lemma sent_ok {category : String} {fs : List ContextField} {es : List (Value × Value)}
    (h : fieldsOf headers category fs = .ok es) :
    ∀ f ∈ fs, ∃ own, sent headers category f = .ok own := by
  rw [fieldsOf_eq] at h
  obtain ⟨parts, h, -⟩ := Outcome.map_ok.1 h
  exact Outcome.exists_mapM_ok.1 ⟨parts, h⟩

/-- What is sent for a field stands under its name. -/
lemma key_of_sent {category : String} {f : ContextField} {es : List (Value × Value)}
    (h : sent headers category f = .ok es) : ∀ e ∈ es, e.1 = .text f.name := by
  unfold sent at h
  split at h
  · cases h
    exact List.forall_mem_nil _
  · split at h
    · cases h
      exact List.forall_mem_singleton.2 rfl
    · cases h

/-- Entries under one name change nothing under other names. -/
lemma lookup?_addEntries_other {key name : String} (ne : key ≠ name) {es : List (Value × Value)}
    (keys : ∀ e ∈ es, e.1 = .text key) : ∀ base : List (Value × Value),
      Value.lookup? name (addEntries base (.mapping es)) = Value.lookup? name base := by
  induction es with
  | nil => exact fun _ => rfl
  | cons e es ih =>
    obtain ⟨k, v⟩ := e
    obtain ⟨rfl, rest⟩ := List.forall_mem_cons.1 keys
    intro base
    refine (ih rest (Value.insertEntry (.text key) v base)).trans ?_
    rw [Value.lookup?_insertEntry, if_neg ne]

/-- What is found after entries have been added depends on what was found before. -/
lemma lookup?_addEntries_congr {key name : String} {es : List (Value × Value)}
    (keys : ∀ e ∈ es, e.1 = .text key) :
    ∀ {base base' : List (Value × Value)}, Value.lookup? name base' = Value.lookup? name base →
      Value.lookup? name (addEntries base' (.mapping es)) =
      Value.lookup? name (addEntries base (.mapping es)) := by
  induction es with
  | nil => exact fun same => same
  | cons e es ih =>
    obtain ⟨k, v⟩ := e
    obtain ⟨rfl, rest⟩ := List.forall_mem_cons.1 keys
    intro base base' same
    show Value.lookup? name (addEntries (Value.insertEntry (.text key) v base') (.mapping es)) =
      Value.lookup? name (addEntries (Value.insertEntry (.text key) v base) (.mapping es))
    refine ih rest ?_
    rw [Value.lookup?_insertEntry, Value.lookup?_insertEntry, same]

/-- What is found under a name depends on what is sent for the fields of the name. -/
lemma lookup?_fieldsOf_congr {category name : String} {fs : List ContextField} :
    ∀ {es es' base base' : List (Value × Value)}, fieldsOf headers category fs = .ok es →
      fieldsOf headers' category fs = .ok es' →
      (∀ f ∈ fs, f.name = name → sent headers' category f = sent headers category f) →
      Value.lookup? name base' = Value.lookup? name base →
      Value.lookup? name (addEntries base' (.mapping es')) =
      Value.lookup? name (addEntries base (.mapping es)) := by
  induction fs with
  | nil =>
    intro es es' base base' h h' _ found
    cases h
    cases h'
    exact found
  | cons f fs ih =>
    intro es es' base base' h h' same found
    rw [fieldsOf_cons] at h h'
    obtain ⟨own, first, h⟩ := Outcome.bind_ok.1 h
    obtain ⟨more, rest, h⟩ := Outcome.bind_ok.1 h
    obtain ⟨own', first', h'⟩ := Outcome.bind_ok.1 h'
    obtain ⟨more', rest', h'⟩ := Outcome.bind_ok.1 h'
    cases h
    cases h'
    obtain ⟨one, same⟩ := List.forall_mem_cons.1 same
    have onward : Value.lookup? name (addEntries base' (.mapping own')) =
        Value.lookup? name (addEntries base (.mapping own)) := by
      by_cases hf : f.name = name
      · cases first.symm.trans ((one hf).symm.trans first')
        exact lookup?_addEntries_congr (key_of_sent first) found
      · rw [lookup?_addEntries_other hf (key_of_sent first),
          lookup?_addEntries_other hf (key_of_sent first'), found]
    have split (base own more : List (Value × Value)) :
        addEntries base (.mapping (own ++ more)) =
        addEntries (addEntries base (.mapping own)) (.mapping more) :=
      List.foldl_append
    rw [split, split]
    exact ih rest rest' same onward

/-! ## Categories -/

/-- The entries for one category. -/
def sentTo (headers : List (String × String)) (c : Category) : Outcome (List (Value × Value)) :=
  if c.enabled then fieldsOf headers c.name c.fields else .ok []

/-- What a context has for a category for which there are entries. -/
def held (es : List (Value × Value)) : Option Value :=
  if es.isEmpty then none else some (Value.ofEntries es)

/-- Categories are made of the headers one after the other, those without fields left out. -/
lemma categoriesOf_cons (headers : List (String × String)) (c : Category) (cs : List Category) :
    categoriesOf headers (c :: cs) = sentTo headers c >>= fun own =>
    categoriesOf headers cs >>= fun more =>
      .ok (if own.isEmpty then more else (c.name, own) :: more) := by
  rw [categoriesOf, sentTo]
  split <;> rfl

/-- Reading headers fails for a field of an enabled category. -/
lemma categoriesOf_error {cs : List Category} {e : Failure}
    (h : categoriesOf headers cs = .error e) :
    ∃ c ∈ cs, c.enabled = true ∧ ∃ f ∈ c.fields, sent headers c.name f = .error e := by
  induction cs with
  | nil => cases h
  | cons c cs ih =>
    rw [categoriesOf_cons, Outcome.bind_error] at h
    obtain failed | ⟨own, -, h⟩ := h
    · unfold sentTo at failed
      split at failed
      · rename_i enabled
        rw [fieldsOf_eq, Outcome.map_error] at failed
        exact ⟨c, .head _, enabled, Outcome.mapM_error failed⟩
      · cases failed
    · obtain ⟨d, hd, failed⟩ := ih (Outcome.bind_result_error.1 h)
      exact ⟨d, .tail _ hd, failed⟩

/-- Where names of categories are distinct, each category has what is sent for it, and
there are no others. -/
lemma categoriesOf_ok {cs : List Category} : ∀ {parts : List (String × List (Value × Value))},
    (cs.map (·.name)).Nodup → categoriesOf headers cs = .ok parts →
      let es := parts.map fun p => (Value.text p.1, Value.ofEntries p.2)
      (∀ c ∈ cs, ∃ own, sentTo headers c = .ok own ∧ Value.lookup? c.name es = held own) ∧
        ∀ name, name ∉ cs.map (·.name) → Value.lookup? name es = none := by
  induction cs with
  | nil =>
    intro parts _ h
    cases h
    exact ⟨List.forall_mem_nil _, fun _ _ => rfl⟩
  | cons c cs ih =>
    intro parts names h
    obtain ⟨new, names⟩ := List.nodup_cons.1 names
    rw [categoriesOf_cons] at h
    obtain ⟨own, first, h⟩ := Outcome.bind_ok.1 h
    obtain ⟨more, rest, h⟩ := Outcome.bind_ok.1 h
    cases h
    obtain ⟨each, lacks⟩ := ih names rest
    have others {name : String} (ne : name ≠ c.name) :
        Value.lookup? name ((if own.isEmpty then more else (c.name, own) :: more).map
          fun p => (Value.text p.1, Value.ofEntries p.2)) =
        Value.lookup? name (more.map fun p => (Value.text p.1, Value.ofEntries p.2)) := by
      split
      · rfl
      · rw [List.map_cons, Value.lookup?_text_cons, if_neg (Ne.symm ne)]
    refine ⟨List.forall_mem_cons.2 ⟨⟨own, first, ?_⟩, fun d hd => ?_⟩, fun name absent => ?_⟩
    · unfold held
      split
      · exact lacks c.name new
      · rw [List.map_cons, Value.lookup?_text_cons, if_pos rfl]
    · obtain ⟨es, hes, found⟩ := each d hd
      refine ⟨es, hes, (others ?_).trans found⟩
      rintro same
      exact new (List.mem_map.2 ⟨d, hd, same⟩)
    · rw [List.map_cons, List.mem_cons, not_or] at absent
      obtain ⟨ne, absent⟩ := absent
      exact (others ne).trans (lacks name absent)

/-! ## Contexts -/

variable {context context' : Value}

/-- The context of headers has for each category what is sent for it, and nothing else. -/
lemma context_ok (names : (registry.categories.map (·.name)).Nodup)
    (h : Header.context registry headers = .ok context) :
    (∀ c ∈ registry.categories, ∃ own, sentTo (byName headers) c = .ok own ∧
      context.entryOf c.name = held own) ∧
      ∀ name, name ∉ registry.categories.map (·.name) → context.entryOf name = none := by
  obtain ⟨parts, read, h⟩ := Outcome.bind_ok.1 h
  cases h
  exact categoriesOf_ok names read

/-- The fields of a category in the context are the entries that are sent for it. -/
lemma fieldsOf_of_held {category : String} {own : List (Value × Value)}
    (h : context.entryOf category = held own) :
    context.fieldsOf category = addEntries [] (.mapping own) := by
  cases context with
  | mapping es =>
    have found : Value.lookup? category es = held own := h
    unfold Value.fieldsOf
    dsimp only
    rw [found]
    cases own <;> rfl
  | _ =>
    cases own with
    | nil => rfl
    | cons e own => cases h

/-- A further header changes nothing for a field that it does not feed. -/
lemma sent_unfed {c : Category} {f : ContextField} (hc : c ∈ registry.categories)
    (enabled : c.enabled = true) (hf : f ∈ c.fields) (unfed : ¬Feeds registry header c f) :
    sent (byName (before ++ (header, value) :: after)) c.name f =
    sent (byName (before ++ after)) c.name f := by
  obtain same | ⟨named, -⟩ := lookup_byName before after header value (nameOf c.name f.name)
  · rw [sent, sent, same]
  · exact absurd ⟨hc, enabled, hf, named⟩ unfed

/-- A further header changes nothing for a category that it does not feed. -/
lemma sentTo_unfed {c : Category} (hc : c ∈ registry.categories)
    (unfed : ∀ f, ¬Feeds registry header c f) :
    sentTo (byName (before ++ (header, value) :: after)) c =
    sentTo (byName (before ++ after)) c := by
  unfold sentTo
  split
  · rename_i enabled
    rw [fieldsOf_eq, fieldsOf_eq, Outcome.mapM_congr fun f hf => sent_unfed hc enabled hf (unfed f)]
  · rfl

/-- A further header for which reading fails feeds a field whose type its value does not fit. -/
lemma context_error {e : Failure} (names : (registry.categories.map (·.name)).Nodup)
    (h : Header.context registry (before ++ after) = .ok context)
    (failed : Header.context registry (before ++ (header, value) :: after) = .error e) :
    ∃ c f reason, Feeds registry header c f ∧ readValue value f.type = .error reason ∧
      e = .refused 400 s!"Header {nameOf c.name f.name}: {reason}" := by
  obtain ⟨c, hc, enabled, f, hf, failed⟩ := categoriesOf_error (Outcome.bind_result_error.1 failed)
  obtain same | ⟨named, found⟩ := lookup_byName before after header value (nameOf c.name f.name)
  · -- If the header is not the one that is read, reading would have failed without it.
    obtain ⟨own, read, -⟩ := (context_ok names h).1 c hc
    rw [sentTo, if_pos enabled] at read
    obtain ⟨es, fits⟩ := sent_ok read f hf
    rw [sent, same, ← sent, fits] at failed
    cases failed
  · rw [sent, found] at failed
    dsimp only at failed
    split at failed
    · cases failed
    · rename_i reason misfit
      cases failed
      exact ⟨c, f, reason, ⟨hc, enabled, hf, named⟩, misfit, rfl⟩

/-- A further header changes only the categories with fields that it feeds, and in them
only these fields. -/
lemma context_unfed (names : (registry.categories.map (·.name)).Nodup)
    (h : Header.context registry (before ++ after) = .ok context)
    (h' : Header.context registry (before ++ (header, value) :: after) = .ok context') :
    (∀ category, (∀ c f, Feeds registry header c f → c.name ≠ category) →
      context'.entryOf category = context.entryOf category) ∧
    ∀ category name, (∀ c f, Feeds registry header c f → c.name = category → f.name ≠ name) →
      Value.lookup? name (context'.fieldsOf category) =
      Value.lookup? name (context.fieldsOf category) := by
  obtain ⟨each, lacks⟩ := context_ok names h
  obtain ⟨each', lacks'⟩ := context_ok names h'
  refine ⟨fun category unfed => ?_, fun category name unfed => ?_⟩
  · by_cases declared : category ∈ registry.categories.map (·.name)
    · obtain ⟨c, hc, rfl⟩ := List.mem_map.1 declared
      obtain ⟨own, read, found⟩ := each c hc
      obtain ⟨own', read', found'⟩ := each' c hc
      rw [sentTo_unfed hc fun f hf => unfed c f hf rfl, read] at read'
      cases read'
      exact found'.trans found.symm
    · rw [lacks category declared, lacks' category declared]
  · by_cases declared : category ∈ registry.categories.map (·.name)
    · obtain ⟨c, hc, rfl⟩ := List.mem_map.1 declared
      obtain ⟨own, read, found⟩ := each c hc
      obtain ⟨own', read', found'⟩ := each' c hc
      rw [fieldsOf_of_held found, fieldsOf_of_held found']
      unfold sentTo at read read'
      split at read
      · rename_i enabled
        rw [if_pos enabled] at read'
        refine lookup?_fieldsOf_congr read read' (fun f hf same => ?_) rfl
        exact sent_unfed hc enabled hf fun fed => unfed c f fed rfl same
      · rename_i disabled
        rw [if_neg disabled] at read'
        cases read
        cases read'
        rfl
    · rw [@fieldsOf_of_held _ _ [] (lacks category declared),
        @fieldsOf_of_held _ _ [] (lacks' category declared)]

/-- A header changes only the fields that it feeds. Take a registry that was read, headers that make
a context, and a further header at any place among them. If there is no context any more, the value
of the header does not fit the type of a field that it feeds, and the request is refused with 400
for this. Otherwise each category with no field that the header feeds is as before, and so is each
field that it does not feed. If the fields have headers of their own, all that changes is at most
one field of one category. They have if and only if no two of them clash: their names are spelled
differently with hyphens, and no category goes on where the field of another one has begun. -/
theorem context_added {source : Option String} {document : Value}
    (accepted : Registry.ofDocument source document = .ok registry)
    (h : Header.context registry (before ++ after) = .ok context) (header value : String) :
    (∀ e, Header.context registry (before ++ (header, value) :: after) = .error e →
      ∃ c f reason, Feeds registry header c f ∧ readValue value f.type = .error reason ∧
        e = .refused 400 s!"Header {nameOf c.name f.name}: {reason}") ∧
    (∀ context', Header.context registry (before ++ (header, value) :: after) = .ok context' →
      (∀ category, (∀ c f, Feeds registry header c f → c.name ≠ category) →
        context'.entryOf category = context.entryOf category) ∧
      (∀ category name, (∀ c f, Feeds registry header c f → c.name = category → f.name ≠ name) →
        Value.lookup? name (context'.fieldsOf category) =
        Value.lookup? name (context.fieldsOf category)) ∧
      (registry.Apart → ∃ category name, (∀ other, other ≠ category →
        context'.entryOf other = context.entryOf other) ∧ ∀ other, other ≠ name →
          Value.lookup? other (context'.fieldsOf category) =
          Value.lookup? other (context.fieldsOf category))) ∧
    (registry.Apart ↔ ∀ c ∈ registry.categories, c.enabled = true → ∀ f ∈ c.fields,
      ∀ d ∈ registry.categories, d.enabled = true → ∀ g ∈ d.fields,
        Clash c.name f.name d.name g.name → c.name = d.name ∧ f.name = g.name) := by
  have names := Registry.nodup_of_ofDocument accepted
  refine ⟨fun e => context_error names h, fun context' h' => ?_, by
    simp only [Registry.Apart, nameOf_eq_iff]⟩
  obtain ⟨categories, fields⟩ := context_unfed names h h'
  refine ⟨categories, fields, fun apart => ?_⟩
  by_cases fed : ∃ c f, Feeds registry header c f
  · obtain ⟨c, f, hf⟩ := fed
    have only {d : Category} {g : ContextField} (hg : Feeds registry header d g) : d.name = c.name ∧
        g.name = f.name :=
      apart d hg.category hg.enabled g hg.field c hf.category hf.enabled f hf.field
        (hg.name.trans hf.name.symm)
    refine ⟨c.name, f.name, fun other ne => ?_, fun other ne => ?_⟩
    · exact categories other fun d g hg same => ne (same.symm.trans (only hg).1)
    · exact fields c.name other fun d g hg _ same => ne (same.symm.trans (only hg).2)
  · refine ⟨"", "", fun other _ => ?_, fun other _ => ?_⟩
    · exact categories other fun c f hf => absurd ⟨c, f, hf⟩ fed
    · exact fields "" other fun c f hf => absurd ⟨c, f, hf⟩ fed

end Header

/-! ## Gates -/

namespace Gates
open Registry Header

/-- The definition of a category with one field, an integer. -/
def definition (field : String) : Value :=
  .record [("fields", .list [.record [("name", .text field), ("type", .text "int")]])]

/-- A document with a field for roles and one for administrators. -/
def document (field : String) : Value :=
  .record [("roles", definition field), ("roles_admin", definition "level")]

/-- What the document is read as. -/
def registry (field : String) : Registry where
  categories := [
    { name := "roles", fields := [⟨field, .int32⟩] },
    { name := "roles_admin", fields := [⟨"level", .int32⟩] }]

/-- Where the fields have headers of their own, what one category is sent is not changed by a
header for another. -/
theorem rank_kept :
    ofDocument none (document "rank") = .ok (registry "rank") ∧ (registry "rank").Apart ∧
    context (registry "rank") [("X-Roles-Rank", "3")] =
    .ok (.record [("roles", .record [("rank", .int 3)])]) ∧
    ∀ context',
    context (registry "rank") [("x-roles-ADMIN-level", "9"), ("X-Roles-Rank", "3")] = .ok context' →
      context'.entryOf "roles" = some (.record [("rank", .int 3)]) := by
  have accepted : ofDocument none (document "rank") = .ok (registry "rank") := by decide +kernel
  have apart : (registry "rank").Apart := by
    unfold Registry.Apart
    decide +kernel
  have sent : context (registry "rank") ([] ++ [("X-Roles-Rank", "3")]) =
      .ok (.record [("roles", .record [("rank", .int 3)])]) := by rfl
  obtain ⟨-, kept, -⟩ := context_added accepted sent "x-roles-ADMIN-level" "9"
  refine ⟨accepted, apart, sent, fun context' h' =>
    ((kept context' h').1 "roles" fun c f fed same => ?_).trans rfl⟩
  obtain rfl | hc := List.mem_cons.1 fed.category
  · cases List.mem_singleton.1 fed.field
    exact absurd fed.name (by decide +kernel)
  · cases List.mem_singleton.1 hc
    exact absurd same (by decide)

/-- One header gives roles and administrators their levels. -/
theorem level_shared :
    ofDocument none (document "admin_level") = .ok (registry "admin_level") ∧
    ¬(registry "admin_level").Apart ∧ context (registry "admin_level") [] = .ok (.record []) ∧
    context (registry "admin_level") [("X-Roles-Admin-Level", "9")] =
      .ok (.record [("roles", .record [("admin_level", .int 9)]),
        ("roles_admin", .record [("level", .int 9)])]) := by
  refine ⟨by decide +kernel, ?_, by rfl, by rfl⟩
  unfold Registry.Apart
  decide +kernel

end Gates
end Rulebook
