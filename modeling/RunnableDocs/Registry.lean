/-
Strategies, and the registry that gives each language one.

A program of an interpreted language is written to the run directory and given to its command. One that is built is
given to its build command, and then what the build has left under the stem of its file name is run. A strategy may also
be any behaviour that a caller supplies.
-/
import RunnableDocs.Config
import RunnableDocs.Process
import RunnableDocs.Program

namespace RunnableDocs

open RunnableDocs.Action (report change look fail ofResult)

/-- what a strategy needs besides the program: the directory it is written to and run in, and the limit for each child
process in milliseconds -/
structure Setting where
  workdir : Path
  limit : Option Nat
  deriving DecidableEq, Repr

inductive Strategy where
  | interpreted (command : List Text)
  | buildThenRun (build : List Text)
  | supplied (behaviour : Program → Setting → Action Text)

/-- what building a file leaves to be run -/
def executableName (filename : Text) : Text := (Path.stem? filename).getD filename

namespace Strategy

def ofLanguage : Language → Strategy
  | .interpreted command => interpreted command
  | .buildThenRun build => buildThenRun build

/-- the program's code put into the run directory, under its file name -/
def writeProgram (s : Setting) (p : Program) : Action Unit :=
  let path := Path.join s.workdir p.filename
  (change (·.write path (Text.encode p.code))).during (.writeFile path)

/-- the command of a strategy -/
def commandOf (parts : List Text) : Action Command :=
  match Command.ofParts? parts with
  | some command => return command
  | none => fail Cause.emptyCommand

/-- what a child printed, if it succeeded -/
def stdoutOf (s : Setting) (o : CommandOutput) (failed : Text → Cause) : Except Failure Text :=
  if o.success then .ok o.stdout else .error (failed (o.failureDetail s.limit))

/-- a strategy's command for one file, run in the run directory -/
def forFile (s : Setting) (p : Program) (command : Command) : Command :=
  { command with args := command.args ++ [p.filename], dir := some s.workdir }

/-- the program given to a command, and what it printed -/
def runInterpreted (launch : Launcher) (parts : List Text) (p : Program) (s : Setting) : Action Text := do
  writeProgram s p
  let command := forFile s p (← commandOf parts)
  report (.run p.filename)
  let output ← (command.run launch s.limit).during (.runCommand command.display)
  ofResult (stdoutOf s output (.run command.display))

/-- what a build has left under the stem of the file name, run -/
def runExecutable (launch : Launcher) (p : Program) (s : Setting) : Action Text := do
  let name := executableName p.filename
  let executable := Path.join s.workdir name
  if !(← look (·.isFile executable)) then fail (Cause.missingExecutable executable)
  else
    report (.run name)
    let shown := '.' :: '/' :: name
    let command : Command := { program := executable, dir := some s.workdir }
    let output ← (command.run launch s.limit).during (.runCommand shown)
    ofResult (stdoutOf s output (.run shown))

/-- the program given to a build command, and what was built run -/
def buildAndRun (launch : Launcher) (parts : List Text) (p : Program) (s : Setting) : Action Text := do
  writeProgram s p
  let command := forFile s p (← commandOf parts)
  report (.build p.filename)
  let output ← (command.run launch s.limit).during (.runCommand command.display)
  if output.success then runExecutable launch p s
  else fail (Cause.build command.display (output.failureDetail s.limit))

/-- a program run by a strategy, and what it printed -/
def execute (launch : Launcher) : Strategy → Program → Setting → Action Text
  | interpreted command => runInterpreted launch command
  | buildThenRun build => buildAndRun launch build
  | supplied behaviour => behaviour

end Strategy

/-- the strategies of the known languages, under their extensions -/
abbrev Registry := Table Strategy

namespace Registry

def empty : Registry := {}

/-- the strategy of a language, in the stead of an earlier one -/
def register (r : Registry) (extension : Text) (s : Strategy) : Registry := r.insert extension s

/-- the known extensions, in order -/
def extensions (r : Registry) : List Text := r.keys

/-- the languages known without any configuration -/
def builtin : Registry :=
  (empty.register "py".toList (.interpreted ["python3".toList])).register "go".toList
    (.buildThenRun ["go".toList, "build".toList])

/-- the languages known at first, and those of a configuration over them -/
def ofConfig (config : Config) : Registry :=
  config.languages.entries.foldl (fun r e => r.register e.1 (.ofLanguage e.2)) builtin

theorem get?_register (r : Registry) (extension : Text) (s : Strategy) (e : Text) :
    (r.register extension s).get? e = if e = extension then some s else r.get? e := Table.get?_insert r extension s e

theorem get?_builtin_ne_supplied (extension : Text) (behaviour : Program → Setting → Action Text) :
    builtin.get? extension ≠ some (.supplied behaviour) := by
  simp only [builtin, get?_register]
  split
  · simp
  · split
    · simp
    · simp [empty, Table.get?, Table.valueIn]

/-- a configuration only brings strategies of the library -/
theorem get?_ofConfig_ne_supplied (config : Config) (extension : Text)
    (behaviour : Program → Setting → Action Text) :
    (ofConfig config).get? extension ≠ some (.supplied behaviour) := by
  unfold ofConfig
  have hbuiltin := get?_builtin_ne_supplied extension behaviour
  generalize builtin = r at hbuiltin
  induction config.languages.entries generalizing r with
  | nil => exact hbuiltin
  | cons e entries ih =>
    refine ih (r.register e.1 (.ofLanguage e.2)) ?_
    rw [get?_register]
    split
    · cases e.2 <;> simp [Strategy.ofLanguage]
    · exact hbuiltin

end Registry
end RunnableDocs
