/-
A machine on which processes run: what they share, and what each of them keeps for itself.

Processes share the tree of files, the clock, and what their descriptors lead to: an open file or one end of a pipe is
opened once and may be held by any number of descriptors, and it goes when the last of them is closed. One process is at
work at a time (`me`); the directory of the world is where that one stands.
-/
import RunnableDocs.Machine.Signal
import RunnableDocs.Shell.Statement
import RunnableDocs.World

namespace RunnableDocs.Machine

open Text (Bytes)
open Shell (Statement)

/-- how a process ends -/
inductive End where
  | exited (code : Nat)
  | signalled (signal : Nat)
  deriving DecidableEq, Repr

/-- the status that a shell sees -/
def End.status : End → Nat
  | exited code => code
  | signalled signal => 128 + signal

/-! ## What descriptors lead to -/

inductive Target where
  | device (d : Device)
  | file (place : Location)
  /-- a file that has been removed, by the number of what is left of it -/
  | lost (number : Nat)
  | directory (place : Location)
  /-- the end of a pipe that is read from -/
  | reading (pipe : Nat)
  /-- the end of a pipe that is written to -/
  | writing (pipe : Nat)
  deriving DecidableEq, Repr

structure Opened where
  number : Nat
  target : Target
  offset : Nat := 0
  /-- what is written goes to the end -/
  appends : Bool := false
  mayRead : Bool := true
  mayWrite : Bool := true
  deriving DecidableEq, Repr

/-- a pipe with what has been written to it and not read yet -/
structure Pipe where
  number : Nat
  front : Octets := []
  /-- what comes behind the front, last first -/
  back : List Octets := []
  size : Nat := 0
  /-- what is written is taken at once by somebody outside, who keeps all of it -/
  isDrained : Bool := false
  deriving DecidableEq, Repr

/-- how much a pipe holds -/
def Pipe.capacity : Nat := 65536

/-- what is written in one piece if it is no longer than this -/
def Pipe.atom : Nat := 4096

def Pipe.add (p : Pipe) (o : Octets) : Pipe := { p with back := o :: p.back, size := p.size + o.length }

/-- all that is in a pipe, in order -/
def Pipe.content (p : Pipe) : Octets := p.front ++ p.back.reverse.flatten

/-- the beginning of what is in a pipe taken out -/
def Pipe.take (p : Pipe) (n : Nat) : Octets × Pipe :=
  let all := if p.back = [] then p.front else p.content
  let taken := all.take n
  (taken, { p with front := all.drop n, back := [], size := p.size - taken.length })

def Pipe.room (p : Pipe) : Nat := if p.isDrained then capacity else capacity - p.size

structure Descriptor where
  number : Nat
  opened : Nat
  /-- it is closed when another program takes over -/
  isPrivate : Bool := false
  deriving DecidableEq, Repr

/-! ## What a shell keeps -/

structure Variable where
  name : Octets
  value : Option Octets
  exported : Bool := false
  readOnly : Bool := false
  /-- what is known of it outlasts the loss of its value -/
  stays : Bool := false
  deriving DecidableEq, Repr

/-- what is put back when a function or a command is left -/
inductive Saved where
  | variable (name : Octets) (old : Option Variable)
  | options (letters : List Char)
  deriving DecidableEq, Repr

/-- processes started together, of which the last one counts -/
structure Job where
  number : Nat
  processes : List (Nat × Option End)
  /-- its end has been waited for -/
  waited : Bool := false
  deriving DecidableEq, Repr

def Job.isDone (j : Job) : Bool := j.processes.all (·.2.isSome)

def Job.status (j : Job) : Nat := ((j.processes.getLast?.bind (·.2)).map End.status).getD 0

/-- what is left for a shell to do when a signal arrives, or at its end -/
structure Trap where
  signal : Nat
  action : Octets
  deriving DecidableEq, Repr

structure ShellState where
  /-- how it is called, in its messages too -/
  name : Octets := "sh".toList
  args : List Octets := []
  /-- the number of the process in which it began -/
  process : Nat := 0
  /-- the directory that it believes to be in; nothing if it does not know -/
  directory : Octets := []
  bindings : List Variable := []
  functions : List (Octets × Statement) := []
  aliases : List (Octets × Octets) := []
  /-- the programs that have been looked for and found -/
  hashed : List (Octets × Octets) := []
  status : Nat := 0
  /-- the status from before a trap -/
  statusBefore : Option Nat := none
  /-- the status of the last output put into a word -/
  outputStatus : Nat := 0
  line : Nat := 1
  options : List Char := []
  /-- functions that have been called and not left yet -/
  calls : Nat := 0
  loops : Nat := 0
  /-- what is to be put back, for each call or command around -/
  locals : List (List Saved) := []
  /-- what is told besides the name in messages -/
  context : Option Octets := none
  traps : List Trap := []
  /-- signals that were ignored from the beginning, and stay so -/
  untrappable : List Nat := []
  jobs : List Job := []
  lastJob : Option Nat := none
  /-- the argument whose options are looked at, counted from one, and how many of its letters have been -/
  optionIndex : Nat := 1
  optionOffset : Option Nat := none
  /-- limits that have been set, under their letters -/
  limits : List (Char × Octets) := []
  /-- it is a subshell, or one below another -/
  isInner : Bool := false
  /-- what is traced is not traced itself -/
  isTracing : Bool := false

/-! ## Processes -/

structure Process where
  id : Nat
  parent : Nat
  descriptors : List Descriptor := []
  cwd : Option Location := none
  wayOut : Option (Location × Nat) := none
  /-- permissions that new files do not get -/
  mask : Nat := 0o022
  ignored : List Nat := []
  caught : List Nat := []
  pending : List Nat := []
  isStopped : Bool := false
  ended : Option End := none
  /-- its place among the processes that have ended -/
  endOrder : Nat := 0
  /-- the variables that its program was given -/
  environment : List (Octets × Octets) := []
  shell : ShellState := {}
  /-- the name by which the program was called -/
  called : Octets := []
  /-- what the program has printed and not handed on yet, last first -/
  printed : List Octets := []
  printedSize : Nat := 0
  /-- why some of it could not be handed on -/
  printError : Option SystemError := none
  /-- what the program has read from its input and not looked at yet -/
  readAhead : Octets := []

structure State where
  world : World
  /-- microseconds since the machine was started -/
  clock : Nat := 0
  me : Process
  others : List Process := []
  /-- who started the first process, and waits outside for its end -/
  outside : Process := { id := 0, parent := 0 }
  opened : List Opened := []
  pipes : List Pipe := []
  /-- what is left of files that were removed while they were open -/
  lost : List (Nat × Bytes) := []
  /-- a number that nothing has yet -/
  fresh : Nat := 1000

/-- where a place is when what was at `source` has been put at `target` -/
def relocated (source target q : Location) : Location :=
  if source.isPrefixOf q then target ++ q.drop source.length else q

namespace Process

def descriptor? (p : Process) (fd : Nat) : Option Descriptor := p.descriptors.find? (·.number = fd)

def holds (p : Process) (opened : Nat) : Bool := p.descriptors.any (·.opened = opened)

/-- a signal that will end the process: it is neither ignored nor caught -/
def deadly? (p : Process) : Option Nat := p.pending.find? fun n =>
  Signal.effect n = .ends && (Signal.isInevitable n || !(p.ignored.contains n || p.caught.contains n))

def isAlive (p : Process) : Bool := p.ended.isNone

/-- where the process stands as long as another one is at work -/
def standing (p : Process) (w : World) : Process := { p with cwd := w.cwd, wayOut := w.wayOut }

/-- where a process stands after a change of the tree -/
def settled (p : Process) (w : World) : Process :=
  match p.cwd, p.wayOut with
  | some stand, _ => if w.isDirectoryAt stand then p else { p with cwd := none, wayOut := some (w.wayUp stand) }
  | none, some (above, steps) =>
    let (left, more) := w.wayUp above
    { p with wayOut := some (left, more + steps) }
  | none, none => p

/-- a process that stands in a tree goes along where that is moved -/
def moved (p : Process) (source target : Location) : Process :=
  { p with
    cwd := p.cwd.map (relocated source target)
    wayOut := p.wayOut.map fun (above, steps) => (relocated source target above, steps) }

end Process

namespace State

def processes (s : State) : List Process := s.me :: s.others

def process? (s : State) (id : Nat) : Option Process := s.processes.find? (·.id = id)

def modifyProcess (s : State) (id : Nat) (f : Process → Process) : State :=
  if s.me.id = id then { s with me := f s.me }
  else { s with others := s.others.map fun p => if p.id = id then f p else p }

/-- another process put to work -/
def switch (s : State) (id : Nat) : State :=
  if s.me.id = id then s
  else match s.others.find? (·.id = id) with
    | none => s
    | some next =>
      { s with
        me := next
        others := s.me.standing s.world :: s.others.filter (·.id ≠ id)
        world := { s.world with cwd := next.cwd, wayOut := next.wayOut } }

/-! ## What is open -/

def opened? (s : State) (number : Nat) : Option Opened := s.opened.find? (·.number = number)

def pipe? (s : State) (number : Nat) : Option Pipe := s.pipes.find? (·.number = number)

def setOpened (s : State) (o : Opened) : State :=
  { s with opened := s.opened.map fun old => if old.number = o.number then o else old }

def setPipe (s : State) (p : Pipe) : State :=
  { s with pipes := s.pipes.map fun old => if old.number = p.number then p else old }

/-- somebody may still write to a pipe -/
def hasWriter (s : State) (pipe : Nat) : Bool := s.opened.any (·.target = .writing pipe)

/-- somebody may still read from a pipe -/
def hasReader (s : State) (pipe : Nat) : Bool :=
  s.opened.any (·.target = .reading pipe) || (s.pipe? pipe).any (·.isDrained)

/-- what no descriptor leads to any more is closed, and a pipe that neither side holds goes -/
def collect (s : State) : State :=
  let opened := s.opened.filter fun o => s.processes.any (·.holds o.number)
  let isEnd (n : Nat) (o : Opened) : Bool := o.target = .reading n || o.target = .writing n
  { s with opened, pipes := s.pipes.filter fun p => p.isDrained || opened.any (isEnd p.number) }

/-- something opened, and its number -/
def open_ (s : State) (target : Target) (mayRead mayWrite appends : Bool) : State × Nat :=
  ({ s with opened := { number := s.fresh, target, mayRead, mayWrite, appends } :: s.opened, fresh := s.fresh + 1 },
    s.fresh)

/-- a descriptor of the process at work made to lead to something -/
def setDescriptor (s : State) (d : Descriptor) : State :=
  { s with me := { s.me with descriptors := d :: s.me.descriptors.filter (·.number ≠ d.number) } }

/-- descriptors of the process at work closed -/
def closeDescriptors (s : State) (which : Descriptor → Bool) : State :=
  if s.me.descriptors.any which then
    collect { s with me := { s.me with descriptors := s.me.descriptors.filter (!which ·) } }
  else s

/-- the least number of a descriptor that is free, from a number on -/
def freeNumber (s : State) (least : Nat) : Nat :=
  let taken := s.me.descriptors.map (·.number)
  ((List.range (taken.length + 1)).map (least + ·)).find? (!taken.contains ·) |>.getD least

/-- a pipe made, with both ends open -/
def makePipe (s : State) : State × Nat × Nat :=
  let pipe := s.fresh
  let s := { s with fresh := pipe + 1, pipes := { number := pipe } :: s.pipes }
  let (s, reading) := s.open_ (.reading pipe) true false false
  let (s, writing) := s.open_ (.writing pipe) false true false
  (s, reading, writing)

/-! ## The tree of files -/

/-- files that are open and have been removed go on without a place; processes whose directory is gone stand nowhere -/
def settleTree (s : State) (w : World) : State :=
  let gone := s.opened.filterMap fun o => match o.target with
    | .file place => if (w.find? place).isNone then some place else none
    | _ => none
  let lost := (gone.eraseDups.zipIdx s.fresh).filterMap fun (place, number) =>
    match s.world.find? place with
    | some (.file content _) => some (place, number, content)
    | _ => none
  let retarget (o : Opened) : Opened :=
    match o.target with
    | .file place => ((lost.find? (·.1 = place)).map fun l => { o with target := .lost l.2.1 }).getD o
    | _ => o
  { s with
    world := w
    opened := if lost = [] then s.opened else s.opened.map retarget
    lost := lost.map (·.2) ++ s.lost
    fresh := s.fresh + lost.length
    others := s.others.map (·.settled w)
    outside := s.outside.settled w }

/-- a tree put in the stead of what is at another place: what is open in it and who stands in it goes along -/
def moveTree (s : State) (source target : Location) : State :=
  let s := s.settleTree (s.world.remove target)
  let there := relocated source target
  let retarget : Target → Target
    | .file place => .file (there place)
    | .directory place => .directory (there place)
    | t => t
  let me := (s.me.standing s.world).moved source target
  { s with
    world :=
      { s.world with
        entries := s.world.entries.map fun e => { e with place := there e.place, depth := (there e.place).length }
        cwd := me.cwd
        wayOut := me.wayOut }
    opened := s.opened.map fun o => { o with target := retarget o.target }
    others := s.others.map (·.moved source target)
    outside := s.outside.moved source target }

/-- what the file behind a target holds -/
def contentOf (s : State) (t : Target) : Bytes :=
  match t with
  | .file place => match s.world.find? place with
    | some (.file content _) => content
    | some (.tool _) => World.toolContent
    | _ => []
  | .lost number => (s.lost.lookup number).getD []
  | _ => []

/-- the content of the file behind a target replaced -/
def setContent (s : State) (t : Target) (content : Bytes) : State :=
  match t with
  | .file place => match s.world.find? place with
    | some (.file _ mode) => { s with world := s.world.put place (.file content mode) }
    | _ => s
  | .lost number => { s with lost := (number, content) :: s.lost.filter (·.1 ≠ number) }
  | _ => s

/-! ## The ends of processes -/

/-- a signal sent to a process -/
def sendSignal (s : State) (id n : Nat) : State := s.modifyProcess id fun p =>
  if n = 0 || !p.isAlive then p
  else match Signal.effect n with
    | .resumes => { p with isStopped := false, pending := if p.caught.contains n then n :: p.pending else p.pending }
    | .stops =>
      if Signal.isInevitable n then { p with isStopped := true }
      else if p.ignored.contains n then p
      else if p.caught.contains n then { p with pending := n :: p.pending.filter (· ≠ n) }
      else { p with isStopped := true }
    | .nothing => if p.caught.contains n then { p with pending := n :: p.pending.filter (· ≠ n) } else p
    | .ends =>
      if p.ignored.contains n && !Signal.isInevitable n then p
      else { p with pending := n :: p.pending.filter (· ≠ n) }

/-- a process ended: its descriptors are closed, its children are left to nobody, and its parent is told -/
def endProcess (s : State) (id : Nat) (e : End) : State :=
  let s := s.modifyProcess id fun p =>
    { p with ended := some e, endOrder := s.fresh, descriptors := [], pending := [], isStopped := false }
  let s := { s with fresh := s.fresh + 1 }
  let orphan (p : Process) : Process := if p.parent = id then { p with parent := 0 } else p
  let s := { s with me := orphan s.me, others := s.others.map orphan }
  let parent := ((s.process? id).map (·.parent)).getD 0
  collect (s.sendSignal parent Signal.child)

end State
end RunnableDocs.Machine
