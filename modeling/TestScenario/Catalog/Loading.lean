import TestScenario.Catalog.Basic
import TestScenario.Catalog.Files
import TestScenario.Document.Tree
import TestScenario.Document.Writer
import TestScenario.Engine.Config

/-!
Catalogs and settings in YAML files.

In a folder, files that are no catalogs are passed over; a file that is named has to be one.
-/

namespace TestScenario

/-- The catalog of a YAML text. -/
def Catalog.ofYaml (text : String) : Option Catalog := do Catalog.read (.yaml (← Document.Node.ofText text))

/-- The catalog as YAML text. -/
def Catalog.toYaml (c : Catalog) : String := Document.Writer.text c.toJson

/-- The settings of a YAML text. -/
def Config.ofYaml (text : String) : Option Config := do Config.read (.yaml (← Document.Node.ofText text))

/-- Why something cannot be loaded from files. -/
inductive LoadError where
  | unreadableCatalog (path : String)
  | invalidCatalog (path : String)
  /-- A file that cannot be merged with those before it in its folder. -/
  | conflictIn (path : String) (cause : MergeError)
  /-- A file or folder that cannot be merged with those before it. -/
  | conflict (cause : MergeError)
  | unreadableConfig (path : String)
  | invalidConfig (path : String)
deriving DecidableEq, Repr

namespace LoadError

/-- The error in words. -/
def message : LoadError → String
  | .unreadableCatalog path => "Failed to read catalog file: " ++ path
  | .invalidCatalog path => "Failed to parse YAML from " ++ path
  | .conflictIn path _ => "Failed to merge " ++ path
  | .conflict cause => cause.message
  | .unreadableConfig path => "Failed to read engine config: " ++ path
  | .invalidConfig path => "Failed to parse engine config from " ++ path

/-- The ids that collide. -/
def cause? : LoadError → Option MergeError
  | .conflictIn _ cause => some cause
  | .conflict cause => some cause
  | _ => none

end LoadError

namespace Catalog

/-- Whether a file of a folder is read, by its name. -/
def isCatalogFile (name : String) : Bool := (Files.extension? name).any fun e => e == "yaml" || e == "yml"

/-- The catalog in a file. -/
def loadFile (files : Files) (path : String) : Except LoadError Catalog :=
  match files.read path with
  | none => .error (.unreadableCatalog (files.shown path))
  | some text =>
    match ofYaml text with
    | none => .error (.invalidCatalog (files.shown path))
    | some c => .ok c

/-- The catalogs in a folder, merged in the order of the names of their files. -/
def loadFolder (files : Files) (path : String) : Except LoadError Catalog :=
  ((files.namesIn path).filter isCatalogFile).foldlM (fun merged name =>
    match loadFile files (Files.join path name) with
    | .error _ => .ok merged
    | .ok c => (merged.merge c).mapError (.conflictIn (files.shown (Files.join path name)))) {}

/-- The catalogs that several paths lead to, merged in the order of the paths. -/
def loadAll (files : Files) (paths : List String) : Except LoadError Catalog :=
  paths.foldlM (fun merged path => do
    let c ← if files.isFolder path then loadFolder files path else loadFile files path
    (merged.merge c).mapError .conflict) {}

end Catalog

/-- The settings in a file. -/
def Config.load (files : Files) (path : String) : Except LoadError Config :=
  match files.read path with
  | none => .error (.unreadableConfig (files.shown path))
  | some text =>
    match ofYaml text with
    | none => .error (.invalidConfig (files.shown path))
    | some c => .ok c

end TestScenario
