/-
Where the documentation of a package is: the doc file below the first workspace root that has one.

The roots are what a command prints, separated by colons. A package that none of them has is expected below the first
one, and so it is that path which is reported.
-/
import RunnableDocs.Config
import RunnableDocs.Process

namespace RunnableDocs.Locate

open RunnableDocs.Action (ofResult fail look)

/-- the roots in what the root command printed -/
def rootsIn (output : Text) : List Path := (Text.splitOn ':' (Text.trim output)).filter (· ≠ [])

/-- the workspace roots, at least one -/
def workspaceRoots (launch : Launcher) (l : Locate) : Action (List Path) :=
  match Command.ofParts? l.rootCommand with
  | none => fail Cause.emptyRootCommand
  | some command => do
    let output ← (command.run launch none).during (.runCommand command.display)
    if !output.success then fail (Cause.rootCommandFailed command.display (Text.trim output.stderr))
    else if rootsIn output.stdout = [] then fail (Cause.noWorkspaceRoot command.display)
    else return rootsIn output.stdout

/-- where the doc file of a package would be below a root -/
def candidate (l : Locate) (package : Text) (root : Path) : Path :=
  Path.join (Path.join (Path.join root l.sourceDir) package) l.docFile

def candidates (l : Locate) (package : Text) (roots : List Path) : List Path := roots.map (l.candidate package)

/-- the first candidate that is a file; without one the first candidate is missed -/
def choose (paths : List Path) (w : World) : Except Failure Path :=
  match paths.find? w.isFile with
  | some path => .ok path
  | none => .error (Cause.docFileNotFound (paths.headD []))

/-- the doc file of a package -/
def findDocFile (launch : Launcher) (l : Locate) (package : Text) : Action Path := do
  let roots ← l.workspaceRoots launch
  let found ← look (choose (l.candidates package roots))
  ofResult found

end RunnableDocs.Locate
