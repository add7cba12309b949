import Rulebook.Proofs.Bound.Alone

/-!
# Targets part the rules

While rules are bound, each of them takes its binding from the targets that there are already, or
adds a new one of an entity that has none. In whatever catalog, what is left is a list of targets
that serve the rules: one for every entity that a rule is bound to (`Book.bind_serve`), in the order
in which rules first use them (`Book.bind_targets`). So the rules of a rule set are parted by their
targets (`Book.bind_parted`).
-/

namespace Rulebook

open Text

/-- What tells an entity from others. -/
def Binding.key (b : Binding) : String × TargetKind × String := (b.domain, b.kind, b.name)

/-- A binding is of a domain and a kind, and its entity or the entity's table or view has a name. -/
structure Binding.GoesBy (b : Binding) (domain : String) (kind : TargetKind) (name : String) :
    Prop where
  domain : b.domain = domain
  kind : b.kind = kind
  name : b.name = name ∨ b.sourceName = String.ofList (lower name.toList)

/-- Every entity has one of the targets at most. -/
def Targets.Separate (ts : Targets) : Prop := ∀ a ∈ ts, ∀ b ∈ ts, a.sameKey b = true → a = b

/-- Targets are the bindings of rules, besides some that there were before. -/
structure Targets.Serve (ts before : Targets) (rules : List BoundRule) : Prop where
  separate : ts.Separate
  kept : before ⊆ ts
  bound : ∀ r ∈ rules, r.binding ∈ ts
  used : ∀ b ∈ ts, b ∈ before ∨ ∃ r ∈ rules, r.binding = b

/-! ## Keys -/

namespace Binding

variable {a b : Binding}

/-- Having the same key is symmetric. -/
lemma sameKey_comm : a.sameKey b = b.sameKey a := by
  unfold sameKey
  rw [BEq.comm (a := a.domain), BEq.comm (a := a.kind), BEq.comm (a := a.name)]

/-- A binding has the same key as itself. -/
lemma sameKey_self : a.sameKey a = true := by
  simp [sameKey]

/-- Bindings have the same key if domain, kind and name are the same. -/
lemma sameKey_iff : a.sameKey b = true ↔ a.key = b.key := by
  simp [sameKey, key, and_assoc]

end Binding

namespace Targets

variable {ts : Targets} {domain name : String} {kind : TargetKind} {b : Binding}

/-- What a name is resolved to is one of the targets, and goes by the name. -/
lemma resolve?_some (h : ts.resolve? domain name kind = some b) :
    b ∈ ts ∧ b.GoesBy domain kind name := by
  obtain h | ⟨_, h⟩ := Option.or_eq_some_iff.1 h
  · have hk := List.find?_some h
    simp only [Bool.and_eq_true, beq_iff_eq] at hk
    exact ⟨List.mem_of_find?_eq_some h, hk.1.1, hk.1.2, .inl hk.2⟩
  · have hk := List.find?_some h
    simp only [Bool.and_eq_true, beq_iff_eq] at hk
    exact ⟨List.mem_of_find?_eq_some h, hk.1.1, hk.1.2, .inr hk.2⟩

/-- A binding of an entity that has no target yet can be added. -/
lemma Separate.append (h : ts.Separate) (fresh : ∀ a ∈ ts, a.sameKey b = false) :
    Separate (ts ++ [b]) := by
  intro a ha a' ha' key
  obtain ha | ha := List.mem_append.1 ha
  · obtain ha' | ha' := List.mem_append.1 ha'
    · exact h a ha a' ha' key
    · cases List.mem_singleton.1 ha'
      rw [fresh a ha] at key
      cases key
  · cases List.mem_singleton.1 ha
    obtain ha' | ha' := List.mem_append.1 ha'
    · rw [Binding.sameKey_comm, fresh a' ha'] at key
      cases key
    · exact (List.mem_singleton.1 ha').symm

/-- A target is found under its own key. -/
lemma Separate.get?_key (h : ts.Separate) (hb : b ∈ ts) :
    ts.get? b.domain b.kind b.name = some b := by
  have self : (b.domain == b.domain && b.kind == b.kind && b.name == b.name) = true := by simp
  cases hf : ts.get? b.domain b.kind b.name with
  | none => exact absurd self (List.find?_eq_none.1 hf b hb)
  | some a =>
    have same := List.find?_some hf
    rw [h a (List.mem_of_find?_eq_some hf) b hb same]

/-- Using bindings keeps targets distinct. -/
lemma nodup_foldl_use {bs : List Binding} :
    ∀ {ts : Targets}, ts.Nodup → (bs.foldl use ts).Nodup := by
  induction bs with
  | nil => exact id
  | cons b bs ih =>
    intro ts nd
    rw [List.foldl_cons]
    refine ih ?_
    unfold use
    split
    · exact nd
    · rename_i new
      refine List.nodup_append.2 ⟨nd, List.nodup_singleton b, fun a ha c hc => ?_⟩
      cases List.mem_singleton.1 hc
      rintro rfl
      exact new ha

end Targets

/-! ## Rules that are bound -/

namespace Bind

variable {catalog : Catalog} {registry : Registry}

/-- The binding of a rule is one of the targets, or it is a new one of an entity that has none. -/
lemma target_cases {ts ts' : Targets} {r : Rule} {b : Binding}
    (h : target catalog ts r = .ok (b, ts')) :
    b ∈ ts ∧ ts' = ts ∨ (∀ a ∈ ts, a.sameKey b = false) ∧ ts' = ts ++ [b] := by
  unfold target at h
  dsimp only at h
  cases hf : catalog.findTarget? r.target.domain r.target.name r.target.kind with
  | none => rw [hf] at h; cases h
  | some e =>
    rw [hf] at h
    dsimp only at h
    cases hg : ts.get? e.domain e.kind e.name with
    | some b' =>
      rw [hg] at h
      cases h
      exact .inl ⟨List.mem_of_find?_eq_some hg, rfl⟩
    | none =>
      rw [hg] at h
      cases h
      refine .inr ⟨fun a ha => ?_, rfl⟩
      exact Bool.eq_false_iff.2 (List.find?_eq_none.1 hg a ha)

/-- Binding rules leaves the targets that serve them. -/
lemma rules_serve {rs : List Rule} :
    ∀ {ts ts' : Targets} {bs : List BoundRule}, ts.Separate →
      rules catalog registry ts rs = .ok (bs, ts') → ts'.Serve ts bs := by
  induction rs with
  | nil =>
    intro ts ts' bs separate h
    cases h
    exact ⟨separate, fun _ h => h, List.forall_mem_nil _, fun b hb => .inl hb⟩
  | cons r rs ih =>
    intro ts ts' bs separate h
    unfold rules at h
    obtain ⟨⟨b, us⟩, ht, h⟩ := Outcome.bind_ok.1 h
    obtain ⟨bound, hr, h⟩ := Outcome.bind_ok.1 h
    obtain ⟨⟨more, vs⟩, hm, h⟩ := Outcome.bind_ok.1 h
    cases h
    have hb : bound.binding = b := (rule_ok.1 hr).binding_eq
    -- After the step the binding is among the targets, and nothing else has come to them.
    obtain ⟨separate, kept, hbu, new⟩ : us.Separate ∧ ts ⊆ us ∧ b ∈ us ∧
      ∀ a ∈ us, a ∈ ts ∨ a = b := by
      obtain ⟨hbs, rfl⟩ | ⟨fresh, rfl⟩ := target_cases ht
      · exact ⟨separate, fun _ h => h, hbs, fun a ha => .inl ha⟩
      · refine ⟨separate.append fresh, List.subset_append_left _ _,
          List.mem_append_right _ (.head _), ?_⟩
        intro a ha
        exact (List.mem_append.1 ha).imp_right List.mem_singleton.1
    obtain ⟨separate, kept', bound', used⟩ := ih separate hm
    refine ⟨separate, fun a ha => kept' (kept ha), List.forall_mem_cons.2 ⟨hb ▸ kept' hbu, bound'⟩,
      ?_⟩
    intro a ha
    obtain ha | ⟨r, hr, e⟩ := used a ha
    · obtain ha | rfl := new a ha
      · exact .inl ha
      · exact .inr ⟨bound, .head _, hb⟩
    · exact .inr ⟨r, .tail _ hr, e⟩

/-- Rules keep what they say, and leave the targets that their bindings make. -/
lemma rules_under {rs : List Rule} :
    ∀ {ts ts' : Targets} {bs : List BoundRule}, rules catalog registry ts rs = .ok (bs, ts') →
      List.Forall₂ (fun r b => b.Under registry b.binding r) rs bs ∧
        ts' = (bs.map (·.binding)).foldl Targets.use ts := by
  induction rs with
  | nil =>
    intro ts ts' bs h
    cases h
    exact ⟨.nil, rfl⟩
  | cons r rs ih =>
    intro ts ts' bs h
    unfold rules at h
    obtain ⟨⟨b, us⟩, ht, h⟩ := Outcome.bind_ok.1 h
    obtain ⟨bound, hr, h⟩ := Outcome.bind_ok.1 h
    obtain ⟨⟨more, vs⟩, hm, h⟩ := Outcome.bind_ok.1 h
    cases h
    have under := rule_ok.1 hr
    obtain ⟨others, rfl⟩ := ih hm
    have used : us = ts.use b := by
      obtain ⟨hb, rfl⟩ | ⟨fresh, rfl⟩ := target_cases ht
      · exact (if_pos hb).symm
      · refine (if_neg fun hb => ?_).symm
        have same := fresh b hb
        rw [Binding.sameKey_self] at same
        cases same
    rw [used, ← under.binding_eq, List.map_cons, List.foldl_cons]
    exact ⟨.cons (under.binding_eq ▸ under) others, rfl⟩

end Bind

/-- The targets of a rule set are the bindings of its rules. -/
lemma Book.bind_serve {book : Book} {catalog : Catalog} {set : RuleSet}
    (h : book.bind catalog = .ok set) :
    set.targets.Serve [] set.rules := by
  obtain ⟨⟨rules, targets⟩, hr, h⟩ := Outcome.bind_ok.1 h
  cases h
  exact Bind.rules_serve (fun _ ha => by cases ha) hr

namespace Book

variable {book : Book} {catalog : Catalog} {set : RuleSet}

/-- The bound rules are the rules of the book. -/
lemma bind_under (h : book.bind catalog = .ok set) :
    List.Forall₂ (fun r b => b.Under book.registry b.binding r) book.rules set.rules := by
  obtain ⟨⟨rules, targets⟩, hr, h⟩ := Outcome.bind_ok.1 h
  cases h
  exact (Bind.rules_under hr).1

/-- The targets are distinct and stand in the order in which rules first use them. -/
lemma bind_targets (h : book.bind catalog = .ok set) :
    set.targets.Nodup ∧ set.targets = (set.rules.map (·.binding)).eraseDups := by
  obtain ⟨⟨rules, targets⟩, hr, h⟩ := Outcome.bind_ok.1 h
  cases h
  rw [(Bind.rules_under hr).2]
  refine ⟨Targets.nodup_foldl_use List.nodup_nil, ?_⟩
  rw [Targets.foldl_use]
  simp

/-- The bound rules have the names of the rules. -/
lemma bind_names (h : book.bind catalog = .ok set) : set.names = book.rules.map (·.name) := by
  have same : List.Forall₂ (· = ·) (set.rules.map (·.name)) (book.rules.map (·.name)) := by
    rw [List.forall₂_map_left_iff, List.forall₂_map_right_iff]
    exact (bind_under h).flip.imp fun b r under => under.name
  rwa [List.forall₂_eq_eq_eq] at same

/-- Where names are distinct, a rule of the book is found by its name. -/
lemma rule?_of_mem (names : (book.rules.map (·.name)).Nodup) {r : Rule} (hr : r ∈ book.rules) :
    book.rule? r.name = some r := find?_of_nodup_map names hr

end Book

namespace RuleSet

variable {set : RuleSet} {domain name : String} {kind : TargetKind} {b : Binding}

/-- Where names are unique, a rule is found by its name. -/
lemma rule?_of_mem (h : set.names.Nodup) {r : BoundRule} (hr : r ∈ set.rules) :
    set.rule? r.name = some r := by
  have names : (set.rules.reverse.map (·.name)).Nodup := by
    rw [List.map_reverse]
    exact List.nodup_reverse.2 h
  exact find?_of_nodup_map names (List.mem_reverse.2 hr)

/-- The rules about a name are those with the binding that the name is resolved to. -/
lemma forTarget_eq (h : set.targets.Serve [] set.rules)
    (hb : set.targets.resolve? domain name kind = some b) :
    set.forTarget domain name kind = set.rules.filter (·.binding = b) := by
  unfold forTarget
  rw [hb]
  refine List.filter_congr fun r hr => ?_
  rw [Bool.eq_iff_iff, decide_eq_true_eq]
  constructor
  · exact h.separate _ (h.bound r hr) _ (Targets.resolve?_some hb).1
  · rintro rfl
    exact Binding.sameKey_self

/-- A target has the rules that are bound to it. -/
lemma forTarget_key (h : set.targets.Serve [] set.rules) (hb : b ∈ set.targets) :
    set.forTarget b.domain b.name b.kind = set.rules.filter (·.binding = b) := by
  refine forTarget_eq h ?_
  rw [Targets.resolve?, h.separate.get?_key hb, Option.some_or]

end RuleSet

/-! ## Parts -/

/-- Rules that are picked binding by binding are the rules with one of the bindings. -/
lemma flatMap_binding_perm (rules : List BoundRule) {bs : List Binding} (nd : bs.Nodup) :
    (bs.flatMap fun b => rules.filter (·.binding = b)).Perm (rules.filter (·.binding ∈ bs)) := by
  induction bs with
  | nil => simp
  | cons b bs ih =>
    obtain ⟨new, nd⟩ := List.nodup_cons.1 nd
    have first : (rules.filter (·.binding ∈ b :: bs)).filter (·.binding = b) =
        rules.filter (·.binding = b) := by
      rw [List.filter_filter]
      refine List.filter_congr fun r _ => ?_
      by_cases h : r.binding = b <;> simp [h]
    have others : ((rules.filter (·.binding ∈ b :: bs)).filter fun r => !decide (r.binding = b)) =
        rules.filter (·.binding ∈ bs) := by
      rw [List.filter_filter]
      refine List.filter_congr fun r _ => ?_
      by_cases h : r.binding = b
      · simp [h, new]
      · simp [h]
    have parts := List.filter_append_perm (fun r : BoundRule => decide (r.binding = b))
      (rules.filter (·.binding ∈ b :: bs))
    rw [first, others] at parts
    exact ((ih nd).append_left _).trans parts

/-- The targets of a rule set part its rules. Their keys are distinct, they stand in the order in
which rules first use them, and they are the bindings of the rules. Asked for under its domain, name
and kind, a target has exactly the rules with its key, in the order of the book; the rules of all
targets together are the rules of the set, so that every rule is among those of one target only.
Where the names of rules are distinct, every rule of the book is found by its name, bound. -/
theorem Book.bind_parted {book : Book} {catalog : Catalog} {set : RuleSet}
    (h : book.bind catalog = .ok set) :
    (set.targets.map Binding.key).Nodup ∧
    set.targets = (set.rules.map (·.binding)).eraseDups ∧
    (∀ b, b ∈ set.targets ↔ ∃ r ∈ set.rules, r.binding = b) ∧
    (∀ b ∈ set.targets,
      set.forTarget b.domain b.name b.kind = set.rules.filter (·.binding.key = b.key)) ∧
    (set.targets.flatMap fun b => set.forTarget b.domain b.name b.kind).Perm set.rules ∧
    (∀ r ∈ set.rules, ∃! b, b ∈ set.targets ∧ r ∈ set.forTarget b.domain b.name b.kind) ∧
    ((book.rules.map (·.name)).Nodup → ∀ r ∈ book.rules, ∃ b ∈ set.rules,
      set.rule? r.name = some b ∧ b.definition = r ∧ book.rule? r.name = some r) := by
  have serve := bind_serve h
  obtain ⟨nodup, order⟩ := bind_targets h
  have mem (b : Binding) : b ∈ set.targets ↔ ∃ r ∈ set.rules, r.binding = b := by
    rw [order, List.mem_eraseDups, List.mem_map]
  refine ⟨?_, order, mem, fun b hb => ?_, ?_, fun r hr => ?_, fun names r hr => ?_⟩
  · refine nodup.map_on fun a ha b hb same => ?_
    exact serve.separate a ha b hb (Binding.sameKey_iff.2 same)
  · rw [RuleSet.forTarget_key serve hb]
    refine List.filter_congr fun r hr => ?_
    rw [decide_eq_decide]
    constructor
    · exact congrArg Binding.key
    · exact fun same => serve.separate _ (serve.bound r hr) b hb (Binding.sameKey_iff.2 same)
  · have all : set.rules.filter (·.binding ∈ set.targets) = set.rules :=
      List.filter_eq_self.2 fun r hr => decide_eq_true (serve.bound r hr)
    have same : (set.targets.flatMap fun b => set.forTarget b.domain b.name b.kind) =
        set.targets.flatMap fun b => set.rules.filter (·.binding = b) :=
      List.flatMap_congr fun b hb => RuleSet.forTarget_key serve hb
    have parts := flatMap_binding_perm set.rules nodup
    rwa [all, ← same] at parts
  · refine ⟨r.binding, ⟨serve.bound r hr, ?_⟩, fun b ⟨hb, mem⟩ => ?_⟩
    · rw [RuleSet.forTarget_key serve (serve.bound r hr)]
      exact List.mem_filter.2 ⟨hr, decide_eq_true rfl⟩
    · rw [RuleSet.forTarget_key serve hb] at mem
      exact (of_decide_eq_true (List.mem_filter.1 mem).2).symm
  · obtain ⟨b, hb, under⟩ := exists_of_forall₂ (bind_under h).flip hr
    have found := RuleSet.rule?_of_mem (bind_names h ▸ names) hb
    rw [under.name] at found
    exact ⟨b, hb, found, under.definition, rule?_of_mem names hr⟩

namespace Shared

/-- Of the three rules, the first and the last have one target. -/
theorem book_parted : ∃ set, book.bind catalog = .ok set ∧
    set.targets = (set.rules.map (·.binding)).eraseDups ∧
    (∀ b ∈ set.targets,
      set.forTarget b.domain b.name b.kind = set.rules.filter (·.binding.key = b.key)) ∧
    set.targets.map (fun b => (set.forTarget b.domain b.name b.kind).map (·.name)) =
      [["Stocked", "Plenty"], ["Adult"]] ∧
    ∀ r ∈ book.rules, ∃ b ∈ set.rules, set.rule? r.name = some b ∧ b.definition = r ∧
    book.rule? r.name = some r := by
  obtain ⟨set, hs, lists⟩ : ∃ set, book.bind catalog = .ok set ∧
      set.targets.map (fun b => (set.forTarget b.domain b.name b.kind).map (·.name)) =
        [["Stocked", "Plenty"], ["Adult"]] := ⟨_, rfl, rfl⟩
  obtain ⟨-, order, -, rules, -, -, named⟩ := Book.bind_parted hs
  exact ⟨set, hs, order, rules, lists, named (by decide)⟩

end Shared
end Rulebook
