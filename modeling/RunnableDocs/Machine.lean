/-
A machine to run commands on: a small system with a shell and the tools that scripts use most.

`launch` is a `Launcher`: it moves the child to its directory, looks for the program, and gives turns to it and to all
that it starts until it has ended, or its time is over, and nobody can write any more to where it could. Nothing of it is
random: the same command in the same world always leaves the same.
-/
import RunnableDocs.Machine.Programs
import RunnableDocs.Machine.Schedule
import RunnableDocs.Process

namespace RunnableDocs.Machine

def homeDirectory : Octets := "/root".toList

/-- when the machine is started, in milliseconds since the beginning of 1970 -/
def startTime : Int := 1763000000000

/-- where temporary files are kept; anybody may put something there -/
def temporaryMode : Nat := 0o1777

/-- a world with the system in it, and an empty directory in which the process stands -/
def initial (home : Location) : World :=
  let place (names : List String) : Location := names.map String.toList
  let directories : List Placed :=
    [["bin"], ["dev"], ["dev", "fd"], ["etc"], ["root"], ["usr"], ["usr", "bin"]].map fun names =>
      { place := place names, entry := .directory }
  let device (names : List String) (d : Device) : Placed := { place := place names, entry := .device d }
  let devices : List Placed :=
    [device ["dev", "null"] .null, device ["dev", "zero"] .zero, device ["dev", "full"] .full,
      device ["dev", "tty"] .terminal, device ["dev", "stdin"] (.descriptor 0),
      device ["dev", "stdout"] (.descriptor 1), device ["dev", "stderr"] (.descriptor 2)] ++
    (List.range 10).map fun n => device ["dev", "fd", toString n] (.descriptor n)
  let programs : List Placed := [["bin"], ["usr", "bin"]].flatMap fun dir =>
    programNames.map fun t => { place := place (dir ++ [t]), entry := .tool t.toList }
  let homes : List Placed :=
    [{ place := home, entry := .directory }, { place := place ["tmp"], entry := .directory, mode := temporaryMode }]
  { entries := (homes ++ directories ++ devices ++ programs).map fun e => { e with changed := startTime }
    cwd := some home
    now := startTime }

/-! ## Running a program -/

/-- the numbers of the first process and of the one that started it -/
def firstProcess : Nat := 1000
def firstParent : Nat := 999

/-- the numbers of the pipes that take the output of the first process -/
def outputPipe : Nat := 1
def errorPipe : Nat := 2

/-- the machine when a child begins: it has no input, and its output is kept; `outside` is the world of who starts it -/
def started (outside w : World) : State where
  world := w
  me :=
    { id := firstProcess
      parent := firstParent
      descriptors := [⟨0, 10, false⟩, ⟨1, 11, false⟩, ⟨2, 12, false⟩]
      cwd := w.cwd
      environment := [("PATH".toList, Image.defaultSearchPath), ("HOME".toList, homeDirectory)] }
  outside := { id := firstParent, parent := 0, cwd := outside.cwd, wayOut := outside.wayOut }
  opened :=
    [{ number := 10, target := .device .null, mayWrite := false },
      { number := 11, target := .writing outputPipe, mayRead := false },
      { number := 12, target := .writing errorPipe, mayRead := false }]
  pipes := [{ number := outputPipe, isDrained := true }, { number := errorPipe, isDrained := true }]
  fresh := firstProcess + 1

/-- what was written to a pipe -/
def outputOf (s : State) (pipe : Nat) : Text.Bytes := ((s.pipe? pipe).map fun p => Octets.toBytes p.content).getD []

/-- how a process ended, told as the system tells it -/
def End.waitStatus : End → WaitStatus
  | .exited n => .exited n
  | .signalled n => .killed n

/-- what the first process does from its beginning -/
def firstTurn (i : Image) (s : State) : Pause :=
  let run : Exec Unit := do
    Exec.changeMe fun p => { p with called := i.called }
    (runner maxDepth).program i
  run s fun _ s => .ended (s.endProcess firstProcess (.exited 0))

/-- a program run to its end, with so many milliseconds for it; who started it stands where it stood before, if that is
still there, wherever it is now -/
def runToEnd (outside w : World) (limit : Option Nat) (i : Image) : World × Ended :=
  let start : Schedule :=
    { state := started outside w
      waiting := [{ process := firstProcess, wait := .time Exec.programTime, next := firstTurn i }]
      root := firstProcess
      deadline := limit.map (· * 1000) }
  let finish := start.run Exec.manyTimes
  let s := finish.state
  let status := (((s.process? firstProcess).bind (·.ended)).getD (.exited 0)).waitStatus
  ({ s.world with cwd := s.outside.cwd, wayOut := s.outside.wayOut },
    ⟨status, outputOf s outputPipe, outputOf s errorPipe, finish.isLate⟩)

/-- the system as a launcher of commands -/
def launch : Launcher := fun c limit w =>
  let parts := c.program :: c.args ++ c.dir.toList
  if parts.any (·.contains '\x00') then (w, .error .nullCharacter)
  else
    let moved := match c.dir with
      | some dir => w.changeDirectory dir
      | none => .ok w
    match moved with
    | .error e => (w, .error e)
    | .ok child =>
      let name := Octets.ofText c.program
      match Image.find child Image.defaultSearchPath name (c.args.map Octets.ofText) with
      | .error e => (w, .error e)
      | .ok i =>
        let (after, ended) := runToEnd w child limit i
        (after, .ok ended)

end RunnableDocs.Machine
