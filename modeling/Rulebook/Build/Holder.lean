import Rulebook.Build.Project

/-!
# Publication

The holder has the rule set that is in force. A build that succeeds may put its rule set there,
which counts up the generation; a build that fails leaves everything as it is.
-/

namespace Rulebook

/-- The rule set in force, and how many were published so far. -/
structure Holder where
  current : Option RuleSet := none
  generation : Nat := 0
  deriving DecidableEq

namespace Holder

/-- Puts a rule set in force. -/
def publish (h : Holder) (s : RuleSet) : Holder := ⟨some s, h.generation + 1⟩

/-- Takes the rule set out of force. -/
def clear (h : Holder) : Holder := { h with current := none }

/-- Takes over what came of a build, if it is to be published and succeeded. -/
def accept (h : Holder) (result : Outcome Build) (publish : Bool) : Holder :=
  match result with
  | .ok b => if publish then h.publish b.ruleSet else h
  | .error _ => h

end Holder

/-- How far a build got. -/
inductive Stage where
  | compiled
  | evaluable
  deriving DecidableEq

/-- The name of a stage. -/
def Stage.name : Stage → String
  | .compiled => "compiled"
  | .evaluable => "evaluable"

/-- Builds a project from the files that the settings name. -/
def Files.buildConfigured (fs : Files) (settings : Settings) (base : String) : Outcome Build := do
  let request ← fs.request settings base
  fs.build settings request

/-- The settings that are known, or else those of the project. -/
def Files.knownSettings (fs : Files) (known : Option Settings) : Outcome Settings :=
  match known with
  | some settings => .ok settings
  | none => Settings.load fs

/-- Builds the project in a folder by the settings that are known, or else by its own. -/
def Files.buildProject (fs : Files) (known : Option Settings) : Outcome Build := do
  let settings ← fs.knownSettings known
  fs.buildConfigured settings "."

/-- What is done with a holder. -/
inductive HolderAction where
  /-- Builds from given files. -/
  | build (settings : Settings) (files : Files) (request : BuildRequest) (publish : Bool)
  /-- Builds from the files that the settings name. -/
  | buildConfigured (settings : Settings) (files : Files) (base : String) (publish : Bool)
  /-- Asks for a rule set in force; if there is none, the project is built, with the settings that
  were loaded first if they were. -/
  | provide (known : Option Settings) (files : Files)
  | clear

/-- The holder after an action. -/
def HolderAction.run (a : HolderAction) (h : Holder) : Holder :=
  match a with
  | .build settings files request publish => h.accept (files.build settings request) publish
  | .buildConfigured settings files base publish =>
    h.accept (files.buildConfigured settings base) publish
  | .provide known files => if h.current.isSome then h else h.accept (files.buildProject known) true
  | .clear => h.clear

end Rulebook
