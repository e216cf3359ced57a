/-
The programs of the system: the shell and the tools, and how each is run by its name.

The shell runs programs and programs run the shell; the knot is tied by a number that bounds how deep they are nested.
-/
import RunnableDocs.Machine.Tool.Cat
import RunnableDocs.Machine.Tool.Chmod
import RunnableDocs.Machine.Tool.Env
import RunnableDocs.Machine.Tool.Listing
import RunnableDocs.Machine.Tool.Move
import RunnableDocs.Machine.Tool.Printing
import RunnableDocs.Machine.Tool.Remove
import RunnableDocs.Machine.Tool.Sleep
import RunnableDocs.Machine.Tool.Touch
import RunnableDocs.Machine.Tool.Tr
import RunnableDocs.Shell.Program

namespace RunnableDocs.Machine

open Exec
open Shell (Runner)

/-- a tool: what it does with its arguments, and its status if its output cannot be written -/
structure Program where
  name : String
  run : List Octets → Exec Nat
  failed : Nat := 1

/-- the tools that run no other programs -/
def plainPrograms : List Program :=
  [{ name := "cat", run := Tool.Cat.run }, { name := "chmod", run := Tool.Chmod.run },
    { name := "cp", run := Tool.Copy.run }, { name := "echo", run := Tool.echo },
    { name := "false", run := fun _ => return 1 }, { name := "head", run := Tool.Head.run },
    { name := "ls", run := Tool.Listing.run, failed := 2 }, { name := "mv", run := Tool.Move.run },
    { name := "printf", run := Tool.printf }, { name := "pwd", run := Tool.pwd },
    { name := "rm", run := Tool.Remove.run },
    { name := "sleep", run := Tool.Sleep.run }, { name := "touch", run := Tool.Touch.run },
    { name := "tr", run := Tool.Tr.run }, { name := "true", run := fun _ => return 0 }]

/-- the names of all programs -/
def programNames : List String := ["sh", "env"] ++ plainPrograms.map (·.name)

/-- what the process at work does as a program, up to its end -/
def startProgram (r : Runner) (i : Image) : Exec Unit := do
  let name := String.ofList i.tool
  if name = "sh" then r.shell i.called i.args
  else if name = "env" then Tool.conclude (← Tool.Env.run r.takeOver i.args) Tool.Env.failed
  else match plainPrograms.find? (·.name = name) with
    | some p => Tool.conclude (← p.run i.args) p.failed
    | none => finish (.exited 127)

/-- what runs scripts and programs nested up to `n` deep -/
def runner : Nat → Runner
  | 0 =>
    { statement := fun _ _ => finish (.exited 2)
      items := fun _ => finish (.exited 2)
      program := fun _ => finish (.exited 2) }
  | n + 1 =>
    { statement := fun duty s => (runner n).run duty s
      items := fun w => (runner n).wordItems w
      program := fun i => startProgram (runner n) i }

/-- deeper than anything is nested -/
def maxDepth : Nat := 1000000000

end RunnableDocs.Machine
