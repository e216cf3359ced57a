/-
The directory that a batch of programs runs in.

`enterWith` puts the process into a directory that is named, and made where it is missing, or into one that a provider of
temporary directories makes; if the process cannot be put there, the provider removes it again. `leaveWith` puts the
process back and has a temporary directory removed; a directory that cannot be gone back to is no obstacle. `enter` and
`leave` do so with the provider of the system.
-/
import RunnableDocs.Action

namespace RunnableDocs

/-- a directory that the process was put into, and where it was before -/
structure RunDirectory where
  path : Path
  origin : Path
  ephemeral : Bool
  deriving DecidableEq, Repr

namespace RunDirectory

open RunnableDocs.Action (attempt change inspect)

/-- a path as seen from a directory -/
def absolute (origin dir : Path) : Path := if Path.isAbsolute dir then dir else Path.join origin dir

/-- who makes temporary directories, tells their paths, and removes them with all that is in them -/
structure Provider where
  make : World → Except SystemError (World × Path)
  remove : Path → World → World

/-- the provider of the system; a removal that it refuses is no obstacle either -/
def Provider.system : Provider where
  make := World.makeTemporary
  remove path w := (w.removeDirectory path).1

variable (temporary : Provider)

/-- a fresh temporary directory -/
def makeTemporary : Action Path := fun w =>
  match temporary.make w with
  | .ok (w', path) => ⟨[], w', .ok path⟩
  | .error e => ⟨[], w, .error e⟩

/-- the process put into a temporary directory, which goes if that fails -/
def enterTemporary (path : Path) : Action Unit := fun w =>
  let o := (change (·.changeDirectory path)).during (.changeDirectory path) w
  match o.result with
  | .ok _ => o
  | .error _ => { o with world := temporary.remove path o.world }

/-- the process put into `dir`, or into a temporary directory that is made -/
def enterWith (dir : Option Path) : Action RunDirectory := do
  let origin ← (inspect World.currentPath).during .readCurrentDirectory
  match dir with
  | none => do
    let path ← (makeTemporary temporary).during .createTemporaryDirectory
    enterTemporary temporary path
    return ⟨path, origin, true⟩
  | some dir => do
    let path := absolute origin dir
    (attempt (·.makeDirectories path)).during (.createDirectory path)
    (change (·.changeDirectory path)).during (.changeDirectory path)
    return ⟨path, origin, false⟩

/-- the process put back, and a temporary directory removed -/
def leaveWith (d : RunDirectory) (w : World) : World :=
  let back := (w.changeDirectory d.origin).toOption.getD w
  if d.ephemeral then temporary.remove d.path back else back

/-- the process put into `dir`, or into a temporary directory of the system -/
def enter (dir : Option Path) : Action RunDirectory := enterWith .system dir

/-- the process put back, and a temporary directory of the system removed -/
def leave (d : RunDirectory) (w : World) : World := leaveWith .system d w

end RunDirectory
end RunnableDocs
