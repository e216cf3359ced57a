/-
The shell as a program: how it begins, and where its script comes from.
-/
import RunnableDocs.Shell.Evaluation

namespace RunnableDocs.Shell

open Machine (Exec ShellState)
open Machine.Exec

/-- a shell that knows of its surroundings what it was given -/
def begin (called : Octets) : Exec Unit := do
  let p ← gets (·.me)
  changeShell fun _ =>
    { name := called
      process := p.id
      bindings := bindingsFrom p.environment p.parent
      untrappable := p.ignored
      line := 0 }
  let given := ((p.environment.lookup "PWD".toList).getD [])
  let w ← lookWorld id
  let isRight := given.head? = some '/' && w.cwd.isSome &&
    (w.resolve (Octets.toText given)).toOption = w.cwd && w.isDirectory (Octets.toText given)
  let here ← if isRight then pure given else Builtin.systemDirectory
  Builtin.noteDirectory here false

/-- what a shell does, given its arguments -/
def Runner.main (r : Runner) (args : List Octets) : Exec Nat := do
  let h ← heedOptions true (args.length + 1) { rest := args }
  let fromInput ← hasOption 's'
  match h.isCommand, h.rest with
  | true, [] => refuse "-c requires an argument"
  | true, text :: rest => do
    changeShell fun s => { s with name := rest.headD s.name, args := rest.drop 1 }
    let status ← r.text {} text
    if fromInput then r.source manyTimes { descriptor := 0 } status else return status
  | false, [] => do
    setOption true 's'
    r.source manyTimes { descriptor := 0 } 0
  | false, path :: rest =>
    if fromInput then do
      changeShell fun s => { s with args := path :: rest }
      r.source manyTimes { descriptor := 0 } 0
    else do
      let opened ← openPath .read path
      let descriptor ← gets (·.freeNumber keptFrom)
      modify (·.setDescriptor { number := descriptor, opened, isPrivate := true })
      changeShell fun s => { s with name := path, args := rest }
      r.source manyTimes { descriptor } 0

/-- the shell as a program -/
def Runner.shell (r : Runner) (called : Octets) (args : List Octets) : Exec Unit := do
  r.whole do
    begin called
    r.main args

end RunnableDocs.Shell
