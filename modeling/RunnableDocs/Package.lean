/-
The documentation of a package, found, read and run.

Every set of extensions is taken to have its pattern of file names. One whose pattern would be too large to be built, as
extensions of very great length make it, is refused once a doc file has been read, by a failure of no kind; that failure
is not represented, so what is stated of a doc file is stated for extensions of which the pattern can be built.
-/
import RunnableDocs.Batch
import RunnableDocs.Locate

namespace RunnableDocs

open RunnableDocs.Action (report inspect ofResult)
open RunDirectory (Provider)
open Text (Bytes)

/-- the text of a file, which has to be UTF-8 -/
def World.readText (p : Path) (w : World) : Except SystemError Text := do
  match Text.decode? (← w.read p) with
  | some text => .ok text
  | none => .error .invalidText

/-- what a run has done -/
structure Summary where
  docFile : Path
  programs : Nat
  deriving DecidableEq, Repr

namespace DocFile

/-- the programs of a doc file, in the languages of a registry -/
def parse (docFile : Path) (markers : Markers) (registry : Registry) : Action (List Program) := do
  let source ← (inspect (World.readText docFile)).during (.readFile docFile)
  (ofResult ((Program.ofSource markers registry.extensions source).mapError Failure.ofCause)).during
    (.parseFile docFile)

/-- the programs of a doc file parsed, and then run -/
def run (launch : Launcher) (docFile : Path) (dir : Option Path) (config : Config) (registry : Registry)
    (temporary : Provider := .system) : Action Summary := do
  let programs ← parse docFile config.markers registry
  report (.parsed docFile programs.length)
  Batch.run launch registry programs dir config.limit temporary
  return ⟨docFile, programs.length⟩

end DocFile

/-- the documentation of a package run, with the languages of the configuration -/
def Package.run (launch : Launcher) (package : Text) (dir : Option Path) (config : Config)
    (temporary : Provider := .system) : Action Summary := do
  let docFile ← (config.locate.findDocFile launch package).during (.locateDocumentation package)
  DocFile.run launch docFile dir config (Registry.ofConfig config) temporary

/-- the configuration in a file; a missing file is the default -/
def Config.load (path : Path) : Action Config := fun w =>
  if w.pathExists path then
    (do
      let text ← (inspect (World.readText path)).during (.readFile path)
      (ofResult (Config.parse text)).during (.loadConfig path)) w
  else
    (do
      ofResult (Config.validate {})
      return ({} : Config)) w

end RunnableDocs
