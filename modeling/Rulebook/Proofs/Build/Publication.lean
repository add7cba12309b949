import Mathlib.Data.List.Induction
import Rulebook.Proofs.Outcome
import Rulebook.Service.Server

/-!
# Publication is all or nothing

A build is made when all of its stages succeed (`Files.build_ok`), and it fails with the failure of
the first stage that does not (`Files.build_error`). An action on a holder clears it, publishes a
build or has nothing to do (`HolderAction.cases_at`), so the holder is at all times what the log of
its publications says (`Holder.after_logged`). A server acts on its holder in no other way: after
any requests it is what such actions have made of it (`Server.after_ran`).
-/

namespace Rulebook

/-! ## Builds -/

/-- A build is made of files: every stage gives its part of it. -/
structure Build.Made (b : Build) (fs : Files) (settings : Settings) (request : BuildRequest) :
    Prop where
  compiled : ∃ schemas, request.schemas.mapM fs.schema = .ok schemas ∧
    compileSchemas (request.compileSettings settings) schemas = .ok b.catalog
  read : fs.readBook settings.defaultDomain request.features request.metadata = .ok b.book
  checked : b.book.check b.catalog = .ok b.report
  strict : settings.failOnWarnings = true → b.report.warnings = []
  bound : b.book.bind b.catalog = .ok b.ruleSet

/-- Checking and binding a book fails: it does not pass the check, it gives warnings where there
must be none, or it cannot be bound. -/
inductive Book.Fails (settings : Settings) (catalog : Catalog) (book : Book) : Failure → Prop
  | check {e} : book.check catalog = .error e → Fails settings catalog book e
  | warnings {report} : book.check catalog = .ok report → settings.failOnWarnings = true →
      report.warnings ≠ [] →
      Fails settings catalog book (.diagnostic ⟨.warnings (report.warnings.map (·.text)), {}, none⟩)
  | bind {report e} : book.check catalog = .ok report →
      (settings.failOnWarnings = true → report.warnings = []) → book.bind catalog = .error e →
      Fails settings catalog book e

/-- A build fails at its first stage that fails: when the schemas or the rules are read, when the
schemas are compiled, or when the book is checked and bound. -/
inductive Files.Fails (fs : Files) (settings : Settings) (request : BuildRequest) : Failure → Prop
  | schemas {e} : request.schemas.mapM fs.schema = .error e → Fails fs settings request e
  | book {schemas e} : request.schemas.mapM fs.schema = .ok schemas →
      fs.readBook settings.defaultDomain request.features request.metadata = .error e →
      Fails fs settings request e
  | catalog {schemas book e} : request.schemas.mapM fs.schema = .ok schemas →
      fs.readBook settings.defaultDomain request.features request.metadata = .ok book →
      compileSchemas (request.compileSettings settings) schemas = .error e →
      Fails fs settings request e
  | rules {schemas book catalog e} : request.schemas.mapM fs.schema = .ok schemas →
      fs.readBook settings.defaultDomain request.features request.metadata = .ok book →
      compileSchemas (request.compileSettings settings) schemas = .ok catalog →
      book.Fails settings catalog e → Fails fs settings request e

/-- A build from the files that the settings name fails when these cannot be told, or from them. -/
inductive Files.ConfiguredFails (fs : Files) (settings : Settings) (base : String) : Failure → Prop
  | request {e} : fs.request settings base = .error e → ConfiguredFails fs settings base e
  | build {request e} : fs.request settings base = .ok request → fs.Fails settings request e →
      ConfiguredFails fs settings base e

/-- A build of the project in a folder fails when its settings are not known and cannot be
read, or with these. -/
inductive Files.ProjectFails (fs : Files) (known : Option Settings) : Failure → Prop
  | settings {e} : fs.knownSettings known = .error e → ProjectFails fs known e
  | build {settings e} : fs.knownSettings known = .ok settings → fs.ConfiguredFails settings "." e →
      ProjectFails fs known e

/-- Warnings keep a book from being bound where there must be none. -/
lemma Build.warned_iff {settings : Settings} {report : Report} :
    (settings.failOnWarnings && !report.warnings.isEmpty) = true ↔
      settings.failOnWarnings = true ∧ report.warnings ≠ [] := by
  simp

/-- A book makes a build if it passes the check, without warnings where there must be
none, and is bound. -/
lemma Build.ofBook_ok {settings : Settings} {catalog : Catalog} {book : Book} {b : Build} :
    Build.ofBook settings catalog book = .ok b ↔
      b.catalog = catalog ∧ b.book = book ∧ book.check catalog = .ok b.report ∧
        (settings.failOnWarnings = true → b.report.warnings = []) ∧
        book.bind catalog = .ok b.ruleSet := by
  unfold ofBook
  rw [Outcome.bind_ok]
  constructor
  · rintro ⟨report, hv, h⟩
    split at h
    · cases h
    · rename_i hw
      obtain ⟨set, hb, h⟩ := Outcome.bind_ok.1 h
      cases h
      rw [warned_iff, not_and, not_not] at hw
      exact ⟨rfl, rfl, hv, hw, hb⟩
  · rintro ⟨rfl, rfl, hv, hw, hb⟩
    refine ⟨b.report, hv, ?_⟩
    rw [if_neg (by rwa [warned_iff, not_and, not_not])]
    exact Outcome.bind_ok.2 ⟨b.ruleSet, hb, rfl⟩

/-- A book makes no build if it fails the check or the binding, or for its warnings. -/
lemma Build.ofBook_error {settings : Settings} {catalog : Catalog} {book : Book} {e : Failure} :
    Build.ofBook settings catalog book = .error e ↔ book.Fails settings catalog e := by
  unfold ofBook
  rw [Outcome.bind_error]
  constructor
  · rintro (hv | ⟨report, hv, h⟩)
    · exact .check hv
    · split at h
      · rename_i hw
        cases h
        obtain ⟨strict, some⟩ := warned_iff.1 hw
        exact .warnings hv strict some
      · rename_i hw
        rw [warned_iff, not_and, not_not] at hw
        exact .bind hv hw (Outcome.bind_result_error.1 h)
  · rintro (hv | ⟨hv, strict, some⟩ | ⟨hv, hw, hb⟩)
    · exact .inl hv
    · refine .inr ⟨_, hv, ?_⟩
      rw [if_pos (warned_iff.2 ⟨strict, some⟩)]
      rfl
    · refine .inr ⟨_, hv, ?_⟩
      rw [if_neg (by rwa [warned_iff, not_and, not_not])]
      exact Outcome.bind_result_error.2 hb

namespace Files

variable {fs : Files} {settings : Settings} {request : BuildRequest} {b : Build} {e : Failure}

/-- A build succeeds when all of its stages do. -/
lemma build_ok : fs.build settings request = .ok b ↔ b.Made fs settings request := by
  constructor
  · intro h
    obtain ⟨schemas, hs, h⟩ := Outcome.bind_ok.1 h
    obtain ⟨book, hr, h⟩ := Outcome.bind_ok.1 h
    obtain ⟨catalog, hc, h⟩ := Outcome.bind_ok.1 h
    obtain ⟨rfl, rfl, hv, hw, hb⟩ := Build.ofBook_ok.1 h
    exact ⟨⟨schemas, hs, hc⟩, hr, hv, hw, hb⟩
  · rintro ⟨⟨schemas, hs, hc⟩, hr, hv, hw, hb⟩
    have made := Build.ofBook_ok.2 ⟨rfl, rfl, hv, hw, hb⟩
    exact Outcome.bind_ok.2 ⟨schemas, hs,
      Outcome.bind_ok.2 ⟨_, hr, Outcome.bind_ok.2 ⟨_, hc, made⟩⟩⟩

/-- A build fails with the failure of its first stage that fails. -/
lemma build_error : fs.build settings request = .error e ↔ fs.Fails settings request e := by
  unfold build
  rw [Outcome.bind_error]
  constructor
  · rintro (hs | ⟨schemas, hs, h⟩)
    · exact .schemas hs
    obtain hr | ⟨book, hr, h⟩ := Outcome.bind_error.1 h
    · exact .book hs hr
    obtain hc | ⟨catalog, hc, h⟩ := Outcome.bind_error.1 h
    · exact .catalog hs hr hc
    · exact .rules hs hr hc (Build.ofBook_error.1 h)
  · rintro (hs | ⟨hs, hr⟩ | ⟨hs, hr, hc⟩ | ⟨hs, hr, hc, hb⟩)
    · exact .inl hs
    · exact .inr ⟨_, hs, Outcome.bind_error.2 (.inl hr)⟩
    · exact .inr ⟨_, hs, Outcome.bind_error.2 (.inr ⟨_, hr, Outcome.bind_error.2 (.inl hc)⟩)⟩
    · exact .inr ⟨_, hs, Outcome.bind_error.2 (.inr ⟨_, hr, Outcome.bind_error.2 (.inr ⟨_, hc,
        Build.ofBook_error.2 hb⟩)⟩)⟩

/-- A build with settings fails if its request cannot be made out or the build itself fails. -/
lemma buildConfigured_error {base : String} :
    fs.buildConfigured settings base = .error e ↔ fs.ConfiguredFails settings base e := by
  unfold buildConfigured
  rw [Outcome.bind_error]
  constructor
  · rintro (hr | ⟨request, hr, h⟩)
    · exact .request hr
    · exact .build hr (build_error.1 h)
  · rintro (hr | ⟨hr, h⟩)
    · exact .inl hr
    · exact .inr ⟨_, hr, build_error.2 h⟩

/-- A build with settings succeeds if its request can be made out and the build succeeds. -/
lemma buildConfigured_ok {base : String} :
    fs.buildConfigured settings base = .ok b ↔
      ∃ request, fs.request settings base = .ok request ∧ b.Made fs settings request := by
  simp only [buildConfigured, Outcome.bind_ok, build_ok]

/-- A project is built with the settings that are known, or else with those of its files. -/
lemma buildProject_ok {known : Option Settings} :
    fs.buildProject known = .ok b ↔ ∃ settings request, fs.knownSettings known = .ok settings ∧
      fs.request settings "." = .ok request ∧ b.Made fs settings request := by
  simp only [buildProject, Outcome.bind_ok, buildConfigured_ok, exists_and_left]

/-- The build of a project fails for the settings of its files or with them. -/
lemma buildProject_error {known : Option Settings} :
    fs.buildProject known = .error e ↔ fs.ProjectFails known e := by
  unfold buildProject
  rw [Outcome.bind_error]
  constructor
  · rintro (hs | ⟨settings, hs, h⟩)
    · exact .settings hs
    · exact .build hs (buildConfigured_error.1 h)
  · rintro (hs | ⟨hs, h⟩)
    · exact .inl hs
    · exact .inr ⟨_, hs, buildConfigured_error.2 h⟩

end Files

/-! ## Actions -/

/-- An action at a holder publishes a build that is made with some settings. -/
inductive HolderAction.Publishes : HolderAction → Holder → Settings → Build → Prop
  | build {settings files request h b} : b.Made files settings request →
      Publishes (.build settings files request true) h settings b
  | buildConfigured {settings files base request h b} : files.request settings base = .ok request →
      b.Made files settings request →
      Publishes (.buildConfigured settings files base true) h settings b
  | provide {settings known files request h b} : h.current = none →
      files.knownSettings known = .ok settings →
      files.request settings "." = .ok request → b.Made files settings request →
      Publishes (.provide known files) h settings b

/-- An action at a holder fails. -/
inductive HolderAction.Fails : HolderAction → Holder → Failure → Prop
  | build {settings files request publish h e} : files.Fails settings request e →
      Fails (.build settings files request publish) h e
  | buildConfigured {settings files base publish h e} : files.ConfiguredFails settings base e →
      Fails (.buildConfigured settings files base publish) h e
  | provide {known files h e} : h.current = none → files.ProjectFails known e →
      Fails (.provide known files) h e

/-- An action has nothing to do at a holder: its build is not to be published, a rule set is in
force already, or it fails. -/
inductive HolderAction.Idle : HolderAction → Holder → Prop
  | build {settings files request h} : Idle (.build settings files request false) h
  | buildConfigured {settings files base h} : Idle (.buildConfigured settings files base false) h
  | provide {known files h set} : h.current = some set → Idle (.provide known files) h
  | failed {a h e} : HolderAction.Fails a h e → Idle a h

namespace HolderAction

variable {a : HolderAction} {h : Holder}

/-- Every action clears the holder, publishes a build or is idle. -/
lemma cases_at (a : HolderAction) (h : Holder) :
    a = .clear ∨ (∃ settings b, a.Publishes h settings b) ∨ a.Idle h := by
  cases a with
  | clear => exact .inl rfl
  | build settings files request publish =>
    right
    cases built : files.build settings request with
    | error e => exact .inr (.failed (.build (Files.build_error.1 built)))
    | ok b =>
      cases publish with
      | true => exact .inl ⟨settings, b, .build (Files.build_ok.1 built)⟩
      | false => exact .inr .build
  | buildConfigured settings files base publish =>
    right
    cases built : files.buildConfigured settings base with
    | error e => exact .inr (.failed (.buildConfigured (Files.buildConfigured_error.1 built)))
    | ok b =>
      cases publish with
      | true =>
        obtain ⟨request, hr, made⟩ := Files.buildConfigured_ok.1 built
        exact .inl ⟨settings, b, .buildConfigured hr made⟩
      | false => exact .inr .buildConfigured
  | provide known files =>
    right
    cases current : h.current with
    | some set => exact .inr (.provide current)
    | none =>
      cases built : files.buildProject known with
      | error e => exact .inr (.failed (.provide current (Files.buildProject_error.1 built)))
      | ok b =>
        obtain ⟨settings, request, hs, hr, made⟩ := Files.buildProject_ok.1 built
        exact .inl ⟨settings, b, .provide current hs hr made⟩

/-- A rule set is provided by a build only if none is in force. -/
lemma run_provide {known : Option Settings} {files : Files} :
    (HolderAction.provide known files).run h = match h.current with
      | some _ => h
      | none => h.accept (files.buildProject known) true := by
  cases current : h.current <;> simp [run, current]

/-- A build that an action publishes is in force after it. -/
lemma Publishes.run_eq {settings : Settings} {b : Build} (hp : a.Publishes h settings b) :
    a.run h = h.publish b.ruleSet := by
  cases hp with
  | build made => rw [run, Files.build_ok.2 made]; rfl
  | buildConfigured hr made => rw [run, Files.buildConfigured_ok.2 ⟨_, hr, made⟩]; rfl
  | provide current hs hr made =>
    rw [run_provide, current, Files.buildProject_ok.2 ⟨_, _, hs, hr, made⟩]; rfl

/-- A build that fails leaves the holder as it is. -/
lemma Fails.run_eq {e : Failure} (hf : a.Fails h e) : a.run h = h := by
  cases hf with
  | build fails => rw [run, Files.build_error.2 fails]; rfl
  | buildConfigured fails => rw [run, Files.buildConfigured_error.2 fails]; rfl
  | provide current fails => rw [run_provide, current, Files.buildProject_error.2 fails]; rfl

/-- An idle action leaves the holder as it is. -/
lemma Idle.run_eq (idle : a.Idle h) : a.run h = h := by
  have unpublished (result : Outcome Build) : h.accept result false = h := by cases result <;> rfl
  cases idle with
  | build => exact unpublished _
  | buildConfigured => exact unpublished _
  | provide current => rw [run_provide, current]
  | failed fails => exact fails.run_eq

/-- No action counts the generation down. -/
lemma generation_le_run (a : HolderAction) (h : Holder) : h.generation ≤ (a.run h).generation := by
  obtain rfl | ⟨settings, b, hp⟩ | idle := a.cases_at h
  · exact Nat.le_refl _
  · rw [hp.run_eq]
    exact Nat.le_succ _
  · exact Nat.le_of_eq (congrArg Holder.generation idle.run_eq.symm)

end HolderAction

/-! ## Runs -/

/-- A new holder after some actions. -/
def Holder.after (as : List HolderAction) : Holder := as.foldl (fun h a => a.run h) {}

/-- An entry of the log of a holder. -/
inductive LogEntry where
  | published (settings : Settings) (b : Build)
  | cleared

/-- The rule set that an entry leaves in force. -/
def LogEntry.ruleSet? : LogEntry → Option RuleSet
  | .published _ b => some b.ruleSet
  | .cleared => none

/-- The log of actions on a new holder, the latest entry first. -/
inductive Logged : List HolderAction → List LogEntry → Prop
  | start : Logged [] []
  | published {as log a settings b} : Logged as log → a.Publishes (Holder.after as) settings b →
      Logged (as ++ [a]) (.published settings b :: log)
  | cleared {as log} : Logged as log → Logged (as ++ [.clear]) (.cleared :: log)
  | idle {as log a} : Logged as log → a.Idle (Holder.after as) → Logged (as ++ [a]) log

namespace Holder

/-- The last of some actions runs on what the others leave. -/
lemma after_concat (as : List HolderAction) (a : HolderAction) :
    after (as ++ [a]) = a.run (after as) := by
  simp [after]

/-- Every run has a log. -/
lemma exists_logged (as : List HolderAction) : ∃ log, Logged as log := by
  -- Actions come one after the other, so the induction takes the last one off.
  induction as using List.reverseRecOn with
  | nil => exact ⟨[], .start⟩
  | append_singleton as a ih =>
    obtain ⟨log, logged⟩ := ih
    obtain rfl | ⟨settings, b, hp⟩ | idle := a.cases_at (after as)
    · exact ⟨_, .cleared logged⟩
    · exact ⟨_, .published logged hp⟩
    · exact ⟨log, .idle logged idle⟩

/-- Later actions do not count the generation down. -/
lemma generation_le_after (as later : List HolderAction) :
    (after as).generation ≤ (after (as ++ later)).generation := by
  induction later using List.reverseRecOn with
  | nil => exact Nat.le_of_eq (by rw [List.append_nil])
  | append_singleton later a ih =>
    rw [← List.append_assoc, after_concat]
    exact Nat.le_trans ih (a.generation_le_run _)

end Holder

namespace Logged

variable {as : List HolderAction} {log : List LogEntry}

/-- In force is what the latest entry left, and the generation counts the published builds. -/
lemma holder (logged : Logged as log) :
    (Holder.after as).current = log.head?.bind LogEntry.ruleSet? ∧
      (Holder.after as).generation = (log.filterMap LogEntry.ruleSet?).length := by
  induction logged with
  | start => exact ⟨rfl, rfl⟩
  | published _ hp ih =>
    rw [Holder.after_concat, hp.run_eq]
    exact ⟨rfl, congrArg (· + 1) ih.2⟩
  | cleared _ ih =>
    rw [Holder.after_concat]
    exact ⟨rfl, ih.2⟩
  | idle _ idle ih =>
    rw [Holder.after_concat, idle.run_eq]
    exact ih

/-- Every build that was published is made of files, with the settings that it
was published with. -/
lemma made (logged : Logged as log) :
    ∀ settings b, .published settings b ∈ log → ∃ files request, b.Made files settings request := by
  induction logged with
  | start => intro _ _ hm; cases hm
  | published _ hp ih =>
    intro settings b hm
    cases hm with
    | tail _ hm => exact ih settings b hm
    | head =>
      cases hp with
      | build made => exact ⟨_, _, made⟩
      | buildConfigured _ made => exact ⟨_, _, made⟩
      | provide _ _ _ made => exact ⟨_, _, made⟩
  | cleared _ ih =>
    intro settings b hm
    cases hm with
    | tail _ hm => exact ih settings b hm
  | idle _ _ ih => exact ih

end Logged

/-- A rule set knows the catalog and the book that it is bound from. -/
lemma Book.bind_knows {book : Book} {catalog : Catalog} {set : RuleSet}
    (h : book.bind catalog = .ok set) :
    set.catalog = catalog ∧ set.book = book := by
  obtain ⟨_, _, h⟩ := Outcome.bind_ok.1 h
  cases h
  exact ⟨rfl, rfl⟩

/-- After any actions on a new holder, in force is the rule set of the build that was published
last, unless the holder was cleared since, and the generation is the number of builds that were
published. The generation is never counted down. A build that fails in any stage or is not to be
published leaves the holder exactly as it is. Every rule set that was ever published had passed the
check against its own catalog, without warnings where there must be none. -/
theorem Holder.after_logged (as : List HolderAction) :
    (∃ log, Logged as log) ∧
    (∀ log, Logged as log →
      (after as).current = log.head?.bind LogEntry.ruleSet? ∧
      (after as).generation = (log.filterMap LogEntry.ruleSet?).length ∧
      ∀ settings b, .published settings b ∈ log →
        b.ruleSet.book.check b.ruleSet.catalog = .ok b.report ∧
        (settings.failOnWarnings = true → b.report.warnings = []) ∧
        b.ruleSet.book.bind b.ruleSet.catalog = .ok b.ruleSet) ∧
    (∀ later, (after as).generation ≤ (after (as ++ later)).generation) ∧
    ∀ a, a.Idle (after as) → after (as ++ [a]) = after as := by
  refine ⟨exists_logged as, fun log logged => ?_, generation_le_after as, fun a idle => ?_⟩
  · obtain ⟨current, generation⟩ := logged.holder
    refine ⟨current, generation, fun settings b hm => ?_⟩
    obtain ⟨files, request, made⟩ := logged.made settings b hm
    obtain ⟨hc, hb⟩ := Book.bind_knows made.bound
    rw [hc, hb]
    exact ⟨made.checked, made.strict, made.bound⟩
  · rw [after_concat, idle.run_eq]

/-- A project without files is built; one whose schema is missing is not. -/
example :
    let empty : HolderAction := .build {} {} { schemas := [], features := [] } true
    let broken : HolderAction := .build {} {} { schemas := ["schema.sql"], features := [] } true
    (Holder.after [empty, .clear, empty, broken]).generation = 2 := by rfl

/-! ## The server -/

namespace Server

variable {s : Server}

/-- What a server does to provide a rule set, with the settings that it knows. -/
abbrev provision (s : Server) : HolderAction := .provide s.settings s.files

/-- Asking for the rule set in force changes the holder as providing one does, and gives
what is in force then. -/
lemma withRules_holder :
    s.withRules.1.holder = s.provision.run s.holder ∧
      ∀ rules, s.withRules.2 = .ok rules → s.withRules.1.holder.current = some rules := by
  rw [HolderAction.run_provide]
  unfold withRules Files.buildProject
  cases current : s.holder.current with
  | some rules =>
    refine ⟨rfl, fun rules' h => ?_⟩
    cases h
    exact current
  | none =>
    cases s.files.knownSettings s.settings with
    | error e => exact ⟨rfl, fun rules' h => by cases h⟩
    | ok settings =>
      dsimp only
      rw [Outcome.ok_bind]
      cases s.files.buildConfigured settings "." with
      | error e => exact ⟨rfl, fun rules' h => by cases h⟩
      | ok build =>
        refine ⟨rfl, fun rules' h => ?_⟩
        cases h
        rfl

/-- Asking for a rule set does not change the files of the project. -/
lemma withRules_files : s.withRules.1.files = s.files := by
  unfold withRules
  cases s.holder.current with
  | some rules => rfl
  | none =>
    cases s.files.knownSettings s.settings with
    | error e => rfl
    | ok settings =>
      dsimp only
      cases s.files.buildConfigured settings "." <;> rfl

/-- Asking for a rule set does not change settings that are known. -/
lemma withRules_settings {settings : Settings} (known : s.settings = some settings) :
    s.withRules.1.settings = s.settings := by
  unfold withRules
  cases s.holder.current with
  | some rules => rfl
  | none =>
    rw [known]
    dsimp only [Files.knownSettings]
    cases s.files.buildConfigured settings "." <;> rfl

/-- Answering with the rule set in force leaves the server as asking for one does. -/
lemma withRulesDo_server {answer : Server → RuleSet → Outcome Response} :
    (s.withRulesDo answer).1 = s.withRules.1 := by
  unfold withRulesDo
  cases s.withRules with
  | mk s' result =>
    cases result with
    | error e => rfl
    | ok rules =>
      dsimp only
      split <;> rfl

/-- Reading the body of a request leaves the server to what is answered with the body. -/
lemma withBodyDo_server {request : Request} {answer : EvaluationBody → Server × Response}
    {s' : Server} (given : ∀ body, (answer body).1 = s ∨ (answer body).1 = s') :
    (s.withBodyDo request answer).1 = s ∨ (s.withBodyDo request answer).1 = s' := by
  unfold withBodyDo
  split
  · exact given _
  · exact .inl rfl
  · exact .inl rfl
  · exact .inl rfl

/-- A request changes the server in no other way than by asking for a rule set in force. -/
lemma answer_server (s : Server) (request : Request) :
    (s.answer request).1 = s ∨ (s.answer request).1 = s.withRules.1 := by
  unfold answer
  split
  · split <;> exact .inl rfl
  · rename_i route _
    split
    · cases route with
      | health => exact .inl rfl
      | rules => exact .inr withRulesDo_server
      | rule name => exact .inr withRulesDo_server
      | evaluateRule name => exact withBodyDo_server fun _ => .inr withRulesDo_server
      | evaluateTarget domain kind name =>
        refine withBodyDo_server fun body => ?_
        split
        · exact .inl rfl
        · exact .inr withRulesDo_server
    · exact .inl rfl

/-- What was done with the holder of a server that was started: it was to publish a first build,
and then a rule set was asked for some times, always with the settings and files of the start. -/
def provided (files : Files) (settings : Settings) (base : String) (times : Nat) :
    List HolderAction :=
  .buildConfigured settings files base true ::
    List.replicate times (.provide (some settings) files)

/-- A server that was started still has its files and settings, and a rule set was asked
for some times. -/
structure Ran (s : Server) (files : Files) (settings : Settings) (base : String) (times : Nat) :
    Prop where
  files_eq : s.files = files
  settings_eq : s.settings = some settings
  holder_eq : s.holder = Holder.after (provided files settings base times)

/-- A new holder at the start has what came of the first build. -/
lemma after_provided_zero {files : Files} {settings : Settings} {base : String} :
    Holder.after (provided files settings base 0) =
      ({} : Holder).accept (files.buildConfigured settings base) true := rfl

/-- A server that is started has the settings of its files, and nothing was asked for so far. -/
lemma start_ran {files : Files} {base : String} (h : Server.start files base = .ok s) :
    ∃ settings, Settings.load files = .ok settings ∧ s.Ran files settings base 0 := by
  obtain ⟨settings, hs, h⟩ := Outcome.bind_ok.1 h
  refine ⟨settings, hs, ?_⟩
  cases built : files.buildConfigured settings base with
  | ok b =>
    rw [built] at h
    cases h
    exact ⟨rfl, rfl, by rw [after_provided_zero, built]; rfl⟩
  | error e =>
    rw [built] at h
    cases e <;> cases h
    exact ⟨rfl, rfl, by rw [after_provided_zero, built]; rfl⟩

namespace Ran

variable {files : Files} {settings : Settings} {base : String} {times : Nat}

/-- Asking for a rule set once more is one more action on the holder. -/
lemma withRules (ran : s.Ran files settings base times) :
    s.withRules.1.Ran files settings base (times + 1) where
  files_eq := withRules_files.trans ran.files_eq
  settings_eq := (withRules_settings ran.settings_eq).trans ran.settings_eq
  holder_eq := by
    rw [withRules_holder.1, provision, ran.holder_eq, ran.settings_eq, ran.files_eq,
      ← Holder.after_concat, provided, provided, List.replicate_succ', List.cons_append]

/-- A request asks for a rule set at most once. -/
lemma answer (ran : s.Ran files settings base times) (request : Request) :
    ∃ more ≤ 1, (s.answer request).1.Ran files settings base (times + more) := by
  obtain unchanged | asked := s.answer_server request
  · refine ⟨0, Nat.zero_le 1, ?_⟩
    rw [unchanged]
    exact ran
  · refine ⟨1, Nat.le_refl 1, ?_⟩
    rw [asked]
    exact ran.withRules

end Ran

/-- A server after some requests. -/
def after (s : Server) (requests : List Request) : Server :=
  requests.foldl (fun s request => (s.answer request).1) s

/-- A server that was started keeps its files and the settings of the start through all requests,
and its holder is at all times what a first build and some later askings for a rule set make of it,
at most one for each request. So everything that holds of a holder after actions holds of it. -/
lemma after_ran {files : Files} {base : String} (h : Server.start files base = .ok s)
    (requests : List Request) :
    ∃ settings, Settings.load files = .ok settings ∧
      ∃ times ≤ requests.length, (s.after requests).Ran files settings base times := by
  obtain ⟨settings, loaded, started⟩ := start_ran h
  refine ⟨settings, loaded, ?_⟩
  -- Requests come one after the other, so the induction takes the last one off.
  induction requests using List.reverseRecOn with
  | nil => exact ⟨0, Nat.le_refl 0, started⟩
  | append_singleton requests request ih =>
    obtain ⟨times, few, ran⟩ := ih
    obtain ⟨more, one, ran⟩ := ran.answer request
    rw [after, List.foldl_append, List.length_append]
    exact ⟨times + more, Nat.add_le_add few one, ran⟩

/-- Once a rule set is in force, requests change nothing. -/
lemma after_of_current {rules : RuleSet} (current : s.holder.current = some rules)
    (requests : List Request) : s.after requests = s := by
  induction requests with
  | nil => rfl
  | cons request requests ih =>
    have unchanged : (s.answer request).1 = s := by
      obtain unchanged | asked := s.answer_server request
      · exact unchanged
      · rw [asked, withRules, current]
    rw [after, List.foldl_cons, unchanged]
    exact ih

end Server
end Rulebook
