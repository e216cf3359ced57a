/-
A batch: programs run in order in one directory, until one of them fails.
-/
import RunnableDocs.Registry
import RunnableDocs.RunDirectory

namespace RunnableDocs.Batch

open RunnableDocs.Action (report fail ofResult)
open RunDirectory (Provider)

/-- one program looked up, run, and verified -/
def runProgram (launch : Launcher) (registry : Registry) (s : Setting) (p : Program) : Action Unit :=
  match registry.get? p.language with
  | none => fail (Cause.unsupportedLanguage p.filename p.lineStart p.language)
  | some strategy => do
    let stdout ← strategy.execute launch p s
    ofResult ((Program.verify p.filename p.output stdout).mapError Failure.ofCause)
    if p.output.isSome then report (.verified p.filename)

/-- the programs in order, up to the first that fails -/
def runAll (launch : Launcher) (registry : Registry) (s : Setting) : List Program → Action Unit
  | [] => return ()
  | p :: ps => do
    (runProgram launch registry s p).during (.runProgram p.filename p.lineStart)
    runAll launch registry s ps

/-- the programs run in a directory that is entered before and left after them, however they end -/
def run (launch : Launcher) (registry : Registry) (programs : List Program) (dir : Option Path)
    (limit : Option Nat) (temporary : Provider := .system) : Action Unit := do
  let directory ← RunDirectory.enterWith temporary dir
  (do
    report (.directory directory.path directory.ephemeral)
    runAll launch registry ⟨directory.path, limit⟩ programs).andAfter (directory.leaveWith temporary)

end RunnableDocs.Batch
