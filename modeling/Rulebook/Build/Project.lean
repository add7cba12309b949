import Rulebook.Bound.RuleSet
import Rulebook.Build.Settings
import Rulebook.Catalog.Compile
import Rulebook.Catalog.Data
import Rulebook.Check.Rules
import Rulebook.Rule.Feature
import Rulebook.Rule.Registry.Document
import Rulebook.Sql.File
import Rulebook.Yaml.Layout

/-!
# Building a project

From files to a rule set, stage by stage: schemas and rule documents are read, then the registry;
the schemas are compiled into a catalog, the book is checked against it and bound to it. The first
fault ends the build.
-/

namespace Rulebook

/-! ## Documents of data -/

/-- A document in which whatever is vacant stands for nothing. -/
def documentData (text : List Char) : Outcome Value := do
  let v ← Yaml.read text
  .ok (if v.isVacant then .mapping [] else v)

/-- Reads a catalog from the text of its document. -/
def Catalog.read (text : List Char) : Outcome Catalog := documentData text >>= Catalog.ofData

/-- Reads a book from the text of its document. -/
def Book.read (text : List Char) : Outcome Book := documentData text >>= Book.ofData

/-- The document of a catalog. -/
def Catalog.write (c : Catalog) : String := Yaml.write c.toData

/-- The document of a book. -/
def Book.write (b : Book) : String := Yaml.write b.toData

/-! ## Reading files -/

namespace Files

/-- Reads a schema file. -/
def schema (fs : Files) (path : String) : Outcome Sql.Schema := do
  Sql.readSchema (← fs.read path) (some (FilePath.clean path))

/-- Reads a rule document. -/
def feature (fs : Files) (defaultDomain path : String) : Outcome Feature := do
  Feature.read (← fs.read path) (some (FilePath.clean path)) defaultDomain

/-- Reads a registry; a file that does not exist is an empty one. -/
def registry (fs : Files) (path : String) : Outcome Registry :=
  if fs.has path then do Registry.read (← fs.read path) (some (FilePath.clean path)) else .ok {}

/-- Reads a catalog. -/
def catalog (fs : Files) (path : String) : Outcome Catalog := do Catalog.read (← fs.read path)

/-- Reads a book. -/
def book (fs : Files) (path : String) : Outcome Book := do Book.read (← fs.read path)

/-- Reads rule documents, and a registry if a path is given. -/
def readBook (fs : Files) (defaultDomain : String) (features : List String)
    (metadata : Option String) :
    Outcome Book := do
  let features ← features.mapM (fs.feature defaultDomain)
  let registry ← match metadata.filter (· != "") with
    | some path => fs.registry path
    | none => .ok {}
  .ok { registry, rules := features.flatMap (·.rules) }

end Files

/-! ## Building -/

/-- The files to build from, and what the schemas are compiled with. -/
structure BuildRequest where
  schemas : List String
  features : List String
  metadata : Option String := none
  previous : Option Catalog := none
  domainMap : List (String × String) := []

/-- What the schemas of a project are compiled with. -/
def BuildRequest.compileSettings (request : BuildRequest) (settings : Settings) : CompileSettings :=
  { defaultDomain := settings.defaultDomain, domainMap := request.domainMap
    previous := request.previous }

/-- What a build made. -/
structure Build where
  catalog : Catalog
  book : Book
  report : Report
  ruleSet : RuleSet
  deriving DecidableEq

/-- Checks and binds a book. -/
def Build.ofBook (settings : Settings) (catalog : Catalog) (book : Book) : Outcome Build := do
  let report ← book.check catalog
  if settings.failOnWarnings && !report.warnings.isEmpty then
    reject (.warnings (report.warnings.map (·.text))) {}
  else do
    let ruleSet ← book.bind catalog
    .ok { catalog, book, report, ruleSet }

/-- Builds a project from given files. -/
def Files.build (fs : Files) (settings : Settings) (request : BuildRequest) : Outcome Build := do
  let schemas ← request.schemas.mapM fs.schema
  let book ← fs.readBook settings.defaultDomain request.features request.metadata
  let catalog ← compileSchemas (request.compileSettings settings) schemas
  Build.ofBook settings catalog book

/-- The files that the settings name, those that exist below a folder, with the catalog written
there by an earlier build. -/
def Files.request (fs : Files) (settings : Settings) (base : String) : Outcome BuildRequest := do
  let inBase (path : String) : String := FilePath.join base path
  let models := inBase settings.modelsOutput
  let previous ← if fs.has models then some <$> fs.catalog models else .ok none
  .ok { schemas := (settings.schemaFiles.map inBase).filter fs.has
        features := fs.documentsBelow (inBase settings.featuresFolder)
        metadata := some (inBase settings.metadataPath)
        previous }

/-- Writes the documents of a build, the catalog first; what could be written
before a failure stays. -/
def Files.writeOutputs (fs : Files) (build : Build) (models specs : String) :
    Files × Outcome Unit :=
  match fs.write models build.catalog.write with
  | .error e => (fs, .error e)
  | .ok fs =>
    match fs.write specs build.book.write with
    | .error e => (fs, .error e)
    | .ok fs => (fs, .ok ())

end Rulebook
