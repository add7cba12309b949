import Rulebook.Proofs.Data
import Rulebook.Proofs.Eval.Faults
import Rulebook.Proofs.Eval.Visibility
import Rulebook.Service.Header

/-!
# Contexts of two sources

The context of an evaluation is that of the headers with that of the body merged in. Merging goes by
the names as they are written, whereas a field is looked up under two of them, its own and the one
with underscores. Therefore the body does not always come first: where it has a field under the name
with underscores only, a header for the field hides it (`Header.Overrules`). `Header.merge_found`
says that this is the only exception, and `Roles.overruled` shows that there is one.
-/

namespace Rulebook

/-- Entries under texts, no whole text twice. -/
inductive Value.Keyed : List (Value × Value) → Prop where
  | nil :
    Keyed []
  | cons {k v es} :
    Value.lookup? k es = none →
    Keyed es →
    Keyed ((.text k, v) :: es)
  | broken {ps v es} :
    Keyed es →
    Keyed ((.broken ps, v) :: es)

/-- A mapping of mappings. -/
inductive Value.Nested : Value → Prop where
  | mapping {es : List (Value × Value)} :
    (∀ e ∈ es, ∃ fs, e.2 = .mapping fs) →
    Nested (.mapping es)

/-- A mapping of mappings in which all keys are texts. -/
inductive Value.IsContext : Value → Prop where
  | mapping {es} :
    Value.Keyed es →
    (∀ e ∈ es, ∃ fs, e.2 = .mapping fs ∧ Value.Keyed fs) →
    IsContext (.mapping es)

/-- The entries of a category of a context, none if the context lacks it. -/
def Value.fieldsOf (context : Value) (category : String) : List (Value × Value) :=
  match context with
  | .mapping es =>
    match Value.lookup? category es with
    | some (.mapping fs) => fs
    | _ => []
  | _ => []

/-- A context has a category. -/
def Eval.Has (context : Value) (category : String) : Prop :=
  ∃ object, holder context category = .ok (some object)

/-- What is found under a name in a category of a context. -/
def Eval.found (context : Value) (category name : String) : Outcome (Option Value) := do
  match ← holder context category with
  | some object => Access.context object name
  | none => .ok none

/-- The context of headers hides a field of a body: it has the field under its own name, and the
body has something else for it, but only under the name with underscores. -/
def Header.Overrules (headers body : Value) (category field : String) : Prop :=
  Value.lookup? field (body.fieldsOf category) = none ∧
    ∃ v w, Value.lookup? field (headers.fieldsOf category) = some v ∧
      Value.lookup? (Access.underscored field) (body.fieldsOf category) = some w ∧ w ≠ v

/-! ## Entries -/

namespace Value

variable {k : String} {v : Value} {es : List (Value × Value)}

/-- A key is a text if it is the same key as one. -/
lemma sameKey_text {key : Value} : key.sameKey (.text k) = true ↔ key = .text k := by
  cases key <;> simp [sameKey, keyNumber?]

/-- After an entry has been set, its key leads to it, and every other key to where it led before. -/
lemma lookup?_insertEntry (key : String) :
    lookup? key (insertEntry (.text k) v es) = if k = key then some v else lookup? key es := by
  induction es with
  | nil => rfl
  | cons e es ih =>
    obtain ⟨k', w⟩ := e
    by_cases h : k'.sameKey (.text k) = true
    · rw [insertEntry, if_pos h, sameKey_text.1 h, lookup?_text_cons, lookup?_text_cons]
      split <;> rfl
    · rw [insertEntry, if_neg h]
      cases k' with
      | text s =>
        have hs : s ≠ k := by
          intro hs
          exact h (sameKey_text.2 (congrArg Value.text hs))
        rw [lookup?_text_cons, lookup?_text_cons, ih]
        by_cases e : k = key
        · rw [if_pos e, if_pos e, if_neg (e ▸ hs)]
        · rw [if_neg e, if_neg e]
      | _ => exact ih

/-- A key is a broken text if it is the same key as one. -/
lemma sameKey_broken {key : Value} {ps : List Nat} :
    key.sameKey (.broken ps) = true ↔ key = .broken ps := by
  cases key <;> simp [sameKey, keyNumber?]

/-- After an entry has been set under a broken text, every name leads to where it led before. -/
lemma lookup?_insertEntry_broken (ps : List Nat) (key : String) :
    lookup? key (insertEntry (.broken ps) v es) = lookup? key es := by
  induction es with
  | nil => rfl
  | cons e es ih =>
    obtain ⟨k', w⟩ := e
    by_cases h : k'.sameKey (.broken ps) = true
    · rw [insertEntry, if_pos h, sameKey_broken.1 h]
      rfl
    · rw [insertEntry, if_neg h]
      cases k' with
      | text s => rw [lookup?_text_cons, lookup?_text_cons, ih]
      | _ => exact ih

/-- The first entry of the same key is the one that is looked up. -/
lemma find?_sameKey : (es.find? fun p => p.1.sameKey (.text k)).map (·.2) = lookup? k es := by
  induction es with
  | nil => rfl
  | cons e es ih =>
    obtain ⟨k', w⟩ := e
    rw [List.find?_cons]
    dsimp only
    cases h : k'.sameKey (.text k) with
    | true =>
      rw [sameKey_text.1 h, lookup?_text_cons, if_pos rfl]
      rfl
    | false =>
      rw [ih]
      cases k' with
      | text s =>
        rw [lookup?_text_cons, if_neg]
        rintro rfl
        rw [sameKey_text.2 rfl] at h
        cases h
      | _ => rfl

/-- Setting an entry brings in no other value. -/
lemma mem_insertEntry {key : Value} {e : Value × Value} (h : e ∈ insertEntry key v es) :
    e.2 = v ∨ e ∈ es := by
  induction es with
  | nil =>
    cases List.mem_singleton.1 h
    exact .inl rfl
  | cons e' es ih =>
    obtain ⟨k', w⟩ := e'
    rw [insertEntry] at h
    split at h
    · cases h with
      | head => exact .inl rfl
      | tail _ h => exact .inr (.tail _ h)
    · cases h with
      | head => exact .inr (.head _)
      | tail _ h => exact (ih h).imp_right (.tail _)

/-- Under a text key of a mapping of mappings stands a mapping. -/
lemma Nested.of_lookup? {c : String} {object : Value} (h : (Value.mapping es).Nested)
    (hc : lookup? c es = some object) : ∃ fs, object = .mapping fs := by
  obtain ⟨h⟩ := h
  obtain ⟨e, he, rfl⟩ := Access.mem_of_lookup? hc
  exact h e he

/-- A context is a mapping of mappings. -/
lemma IsContext.nested {context : Value} (h : context.IsContext) : context.Nested := by
  obtain ⟨_, h⟩ := h
  refine .mapping fun e he => ?_
  obtain ⟨fs, hfs, _⟩ := h e he
  exact ⟨fs, hfs⟩

end Value

/-! ## Looking a field up -/

namespace Eval

variable {context : Value}

/-- In a mapping of mappings a field is found under its own name, or else under the
name with underscores. -/
lemma found_nested (h : context.Nested) (category name : String) :
    found context category name =
      .ok ((Value.lookup? name (context.fieldsOf category)).or
        (Value.lookup? (Access.underscored name) (context.fieldsOf category))) := by
  obtain ⟨_⟩ := id h
  unfold found Value.fieldsOf
  rw [holder_mapping, Outcome.ok_bind]
  cases hc : Value.lookup? category _ with
  | none => simp [hc]
  | some object =>
    obtain ⟨fs, rfl⟩ := h.of_lookup? hc
    simp only [hc]
    exact Access.context_mapping fs name

/-- A mapping has a category if it has an entry for it. -/
lemma has_mapping {es : List (Value × Value)} {category : String} :
    Has (.mapping es) category ↔ (Value.lookup? category es).isSome := by
  unfold Has
  simp [holder_mapping, Option.isSome_iff_exists]

end Eval

/-! ## Merging -/

namespace Header

variable {registry : Registry} {headers : List (String × String)}
  {base added es : List (Value × Value)}

/-- The context of headers is a mapping of mappings. -/
lemma context_nested {context : Value} (h : Header.context registry headers = .ok context) :
    context.Nested := by
  obtain ⟨categories, -, e⟩ := Outcome.bind_ok.1 h
  cases e
  refine .mapping fun e he => ?_
  obtain ⟨_, _, rfl⟩ := List.mem_map.1 he
  exact ⟨_, rfl⟩

/-- Among the entries of two mappings, those of the added one come first. -/
lemma lookup?_addEntries (h : Value.Keyed es) (name : String) :
    Value.lookup? name (addEntries base (.mapping es)) =
    (Value.lookup? name es).or (Value.lookup? name base) := by
  induction h generalizing base with
  | nil => rfl
  | @cons k v es fresh _ ih =>
    show Value.lookup? name (addEntries (Value.insertEntry (.text k) v base) (.mapping es)) = _
    rw [ih, Value.lookup?_insertEntry, Value.lookup?_text_cons]
    by_cases hk : k = name
    · rw [if_pos hk, if_pos hk, ← hk, fresh]
      rfl
    · rw [if_neg hk, if_neg hk]
  | @broken ps v es _ ih =>
    show Value.lookup? name (addEntries (Value.insertEntry (.broken ps) v base) (.mapping es)) = _
    rw [ih, Value.lookup?_insertEntry_broken]
    rfl

/-- Merging begins with the first category. -/
lemma merge_cons (c : String) (v : Value) :
    merge (.mapping base) (.mapping ((.text c, v) :: added)) =
      merge (.mapping (Value.insertEntry (.text c)
        (.mapping (addEntries ((Value.mapping base).fieldsOf c) v)) base)) (.mapping added) := by
  unfold merge
  dsimp only
  rw [List.foldl_cons]
  -- Only what the category had before is said in two ways.
  congr 5
  unfold Value.fieldsOf
  dsimp only
  rw [← Value.find?_sameKey]
  cases base.find? fun p => p.1.sameKey (.text c) with
  | none => rfl
  | some e =>
    obtain ⟨_, w⟩ := e
    cases w <;> rfl

/-- A category of a merged context is that of the first context, unless the second one has
entries to add to it. -/
lemma lookup?_merge (base : List (Value × Value)) (h : Value.Keyed added) :
    ∃ es, merge (.mapping base) (.mapping added) = .mapping es ∧ ∀ c, Value.lookup? c es =
      match Value.lookup? c added with
      | some v => some (.mapping (addEntries ((Value.mapping base).fieldsOf c) v))
      | none => Value.lookup? c base := by
  induction h generalizing base with
  | nil => exact ⟨base, rfl, fun _ => rfl⟩
  | @cons k v added fresh _ ih =>
    obtain ⟨es, he, hes⟩ := ih (Value.insertEntry (.text k)
      (.mapping (addEntries ((Value.mapping base).fieldsOf k) v)) base)
    refine ⟨es, (merge_cons k v).trans he, ?_⟩
    intro c
    rw [hes, Value.lookup?_text_cons]
    by_cases hk : k = c
    · subst hk
      rw [fresh, if_pos rfl]
      exact (Value.lookup?_insertEntry k).trans (if_pos rfl)
    · rw [if_neg hk]
      unfold Value.fieldsOf
      dsimp only
      rw [Value.lookup?_insertEntry, if_neg hk]
  | @broken ps v added _ ih =>
    -- A category under a broken text is merged like any other, but no name leads to it.
    obtain ⟨w, hw⟩ : ∃ w, merge (.mapping base) (.mapping ((.broken ps, v) :: added)) =
        merge (.mapping (Value.insertEntry (.broken ps) w base)) (.mapping added) := ⟨_, rfl⟩
    obtain ⟨es, he, hes⟩ := ih (Value.insertEntry (.broken ps) w base)
    refine ⟨es, hw.trans he, fun c => ?_⟩
    rw [hes]
    unfold Value.fieldsOf
    dsimp only
    rw [Value.lookup?_insertEntry_broken]
    rfl

/-- A merged context is a mapping of mappings if the first one is, whatever the second one holds. -/
lemma merge_nested {context : Value} (h : context.Nested) (added : Value) :
    (merge context added).Nested := by
  obtain ⟨h⟩ := h
  rename_i base
  cases added with
  | mapping added =>
    unfold merge
    dsimp only
    refine .mapping ?_
    induction added generalizing base with
    | nil => exact h
    | cons e added ih =>
      refine ih fun e' he' => ?_
      obtain hv | hm := Value.mem_insertEntry he'
      · exact ⟨_, hv⟩
      · exact h e' hm
  | _ => exact .mapping h

section

variable {context body : Value} (hc : context.Nested) (hb : body.IsContext)
include hc hb

/-- A merged context has the categories of both. -/
lemma has_merge (c : String) :
    Eval.Has (merge context body) c ↔ Eval.Has body c ∨ Eval.Has context c := by
  obtain ⟨_⟩ := hc
  obtain ⟨keyed, _⟩ := hb
  obtain ⟨es, he, hes⟩ := lookup?_merge _ keyed
  rw [he, Eval.has_mapping, Eval.has_mapping, Eval.has_mapping, hes]
  cases Value.lookup? c _ with
  | none => simp
  | some v => simp

/-- Under one name, a merged context has what the second one has, or else what the first one has. -/
lemma lookup?_fieldsOf_merge (c name : String) :
    Value.lookup? name ((merge context body).fieldsOf c) =
      (Value.lookup? name (body.fieldsOf c)).or (Value.lookup? name (context.fieldsOf c)) := by
  obtain ⟨_⟩ := hc
  obtain ⟨keyed, inner⟩ := hb
  rename_i base _ added
  obtain ⟨es, he, hes⟩ := lookup?_merge base keyed
  rw [he]
  unfold Value.fieldsOf
  dsimp only
  rw [hes]
  cases h : Value.lookup? c added with
  | none => rfl
  | some v =>
    obtain ⟨e, hm, rfl⟩ := Access.mem_of_lookup? h
    obtain ⟨fs, hfs, hk⟩ := inner e hm
    rw [hfs]
    exact lookup?_addEntries hk name

end

/-- A merged context has the categories of both. A field is found in it as it is in the body, or
else in the headers, unless the headers overrule the body; then they come first. -/
theorem merge_found {context body : Value} (hh : Header.context registry headers = .ok context)
    (hb : body.IsContext) (category field : String) :
    (Eval.Has (merge context body) category ↔ Eval.Has body category ∨ Eval.Has context category) ∧
      ∃ sent headed merged, Eval.found body category field = .ok sent ∧
        Eval.found context category field = .ok headed ∧
        Eval.found (merge context body) category field = .ok merged ∧
        (merged = sent.or headed ↔ ¬ Overrules context body category field) ∧
        (Overrules context body category field → merged = headed) := by
  have hc := context_nested hh
  refine ⟨has_merge hc hb category, _, _, _, Eval.found_nested hb.nested _ _,
    Eval.found_nested hc _ _, Eval.found_nested (merge_nested hc body) _ _, ?_⟩
  unfold Overrules
  rw [lookup?_fieldsOf_merge hc hb, lookup?_fieldsOf_merge hc hb]
  generalize Value.lookup? field (body.fieldsOf category) = sent
  generalize Value.lookup? field (context.fieldsOf category) = headed
  generalize Value.lookup? (Access.underscored field) (body.fieldsOf category) = spelled
  cases sent with
  | some v => simp
  | none =>
    cases headed with
    | none => simp
    | some v =>
      cases spelled with
      | none => simp
      | some w =>
        simp [eq_comm]

end Header

/-! ## Roles -/

namespace Roles

/-- A registry with the level of a role. -/
def registry : Registry :=
  { categories := [{ name := "roles", fields := [⟨"roleLevel", .int32⟩] }] }

/-- A header for the level. -/
def headers : List (String × String) := [("X-Roles-Role-Level", "3")]

/-- What the header makes. -/
def headed : Value := .record [("roles", .record [("roleLevel", .int 3)])]

/-- A body with a level under a name. -/
def body (name : String) : Value := .record [("roles", .record [(name, .int 9)])]

/-- The body is a context. -/
lemma isContext_body (name : String) : (body name).IsContext :=
  .mapping (.cons rfl .nil) (List.forall_mem_singleton.2 ⟨_, rfl, .cons rfl .nil⟩)

/-- The level of a body comes first if it is written as the registry has it. -/
theorem level_found :
    Header.context registry headers = .ok headed ∧ (body "roleLevel").IsContext ∧
      (Eval.Has (Header.merge headed (body "roleLevel")) "roles" ↔
        Eval.Has (body "roleLevel") "roles" ∨ Eval.Has headed "roles") ∧
      ∃ sent headed' merged, Eval.found (body "roleLevel") "roles" "roleLevel" = .ok sent ∧
        Eval.found headed "roles" "roleLevel" = .ok headed' ∧
        Eval.found (Header.merge headed (body "roleLevel")) "roles" "roleLevel" = .ok merged ∧
        (merged = sent.or headed' ↔
          ¬ Header.Overrules headed (body "roleLevel") "roles" "roleLevel") ∧
        (Header.Overrules headed (body "roleLevel") "roles" "roleLevel" → merged = headed') := by
  have hh : Header.context registry headers = .ok headed := by rfl
  exact ⟨hh, isContext_body _, Header.merge_found hh (isContext_body _) _ _⟩

/-- A header for a field of the registry can hide what the body has for the field. -/
theorem overruled :
    ¬ ∀ {registry : Registry} {headers : List (String × String)} {context body : Value}
    {category field : String},
      Header.context registry headers = .ok context → body.IsContext →
      (registry.fieldType? category field).isSome = true →
      ∀ sent headed, Eval.found body category field = .ok sent →
      Eval.found context category field = .ok headed →
        Eval.found (Header.merge context body) category field = .ok (sent.or headed) := by
  intro h
  have hh : Header.context registry headers = .ok headed := by rfl
  have found : Eval.found (Header.merge headed (body "role_level")) "roles" "roleLevel" =
      .ok (some (.int 9)) :=
    h hh (isContext_body _) (by decide) (some (.int 9)) (some (.int 3)) (by rfl) (by rfl)
  have merged : Eval.found (Header.merge headed (body "role_level")) "roles" "roleLevel" =
      .ok (some (.int 3)) := by
    rfl
  cases found.symm.trans merged

end Roles
end Rulebook
