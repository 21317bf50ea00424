import ImportAtlas.Config.File
import ImportAtlas.Graph.Export
import ImportAtlas.Graph.Reach
import ImportAtlas.Manifest.File
import ImportAtlas.Project.Context
import ImportAtlas.Project.Graph
import ImportAtlas.Project.Walk

/-! # Questions about projects

Every question lists the files and builds the graph anew, so an answer is about the file
system as it is at that moment.
-/

namespace ImportAtlas

structure FileDependencies where
  path : String
  imports : List String
  importedBy : List String
  transitiveImports : List String
  transitiveImportedBy : List String
deriving DecidableEq, Repr, Inhabited

def FileDependencies.toJson (dependencies : FileDependencies) : Json :=
  .object
    [("path", .text dependencies.path), ("imports", .ofTexts dependencies.imports),
     ("imported_by", .ofTexts dependencies.importedBy),
     ("transitive_imports", .ofTexts dependencies.transitiveImports),
     ("transitive_imported_by", .ofTexts dependencies.transitiveImportedBy)]

/-- A project: a root in a file system, with a configuration unless the one below the root
is to be used. -/
structure Project where
  limits : Limits
  system : FileSystem
  root : Location
  config : Option Config

namespace Project

def activeConfig (project : Project) : Reported Failure Config :=
  match project.config with
  | some config => pure config
  | none => Config.loadForRoot project.limits project.system project.root

def scan (project : Project) (config : Config) : Scan where
  system := project.system
  root := project.root
  ignorePatterns := config.ignorePatterns
  ignoreFiles := config.ignoreFiles.filterMap Location.ofName?

def listFiles (project : Project) (config : Config) : Reported Failure (List FileRecord) := do
  let found ← (project.scan config).run
  return found.records

def graphOf (project : Project) (config : Config) (records : List FileRecord) :
    Reported Failure DependencyGraph :=
  DependencyGraph.build project.system project.root records
    (config.maxFileSize.map fun size => (size : Int))

def files (project : Project) : Reported Failure (List FileRecord) := do
  let config ← project.activeConfig
  project.listFiles config

def graph (project : Project) : Reported Failure DependencyGraph := do
  let config ← project.activeConfig
  let records ← project.listFiles config
  project.graphOf config records

def contextOf (graph : DependencyGraph) (record : FileRecord) : FileContext where
  path := record.path
  extension := record.extension
  imports := graph.importsOf record.path
  importedBy := graph.importersOf record.path

def builtEvent (project : Project) (files : Nat) (edges : Int) (hasManifest : Bool) :
    Log.Event where
  level := Log.Level.info
  logger := Log.Logger.context
  message :=
    "Built project context: " ++ toString files ++ " files, " ++ toString edges ++ " import edges"
  fields :=
    [("root", .text project.root.text), ("files", .int files), ("edges", .int edges),
     ("manifest", .bool hasManifest)]

def context (project : Project) : Reported Failure ProjectContext := do
  let config ← project.activeConfig
  let records ← project.listFiles config
  let graph ← project.graphOf config records
  let manifest ←
    if config.readManifest then
      Manifest.load project.limits.json project.system project.root config.manifestFilename
    else pure none
  let files := records.map (contextOf graph)
  Reported.report (project.builtEvent files.length graph.edgeCount manifest.isSome)
  return ⟨files, manifest⟩

/-- The form in which a project file is named. An absolute path has to lie in the root. -/
def projectPath (project : Project) (path : String) : Except Failure String :=
  let location := Location.ofText path
  if location.isAbsolute then
    match location.relativeTo? (project.system.absolute project.root) with
    | none => .error (.outsideRoot path)
    | some below => .ok (Path.normalize below.text)
  else .ok (Path.normalize location.text)

def dependenciesIn (graph : DependencyGraph) (path : String) : FileDependencies where
  path := path
  imports := graph.importsOf path
  importedBy := graph.importersOf path
  transitiveImports := graph.transitiveImports path
  transitiveImportedBy := graph.transitiveImporters path

def dependenciesOf (project : Project) (path : String) : Reported Failure FileDependencies := do
  let name ← Reported.ofExcept (project.projectPath path)
  let graph ← project.graph
  if graph.contains name then return dependenciesIn graph name
  else Reported.fail (.unknownFile path)

def exportGraph (project : Project) : Reported Failure GraphExport := do
  let graph ← project.graph
  return graph.toExport (some project.root.text)

def summary (project : Project) : Reported Failure Text.Coded := do
  let context ← project.context
  return context.summary

end Project

end ImportAtlas
