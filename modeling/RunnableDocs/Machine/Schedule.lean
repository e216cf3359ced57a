/-
Who runs next.

Every process that has not ended waits for its next turn: for a moment, for a pipe, or for a child. The turn goes to the
one whose moment comes first, and of several to the one that has waited longest. A process that a signal ends gets no
more turns. When the time of the first process is over it is killed; the others go on as long as somebody outside still
listens to them.
-/
import RunnableDocs.Machine.Exec

namespace RunnableDocs.Machine

/-- a process that waits for its turn -/
structure Waiting where
  process : Nat
  wait : Wait
  next : State → Pause

structure Schedule where
  state : State
  /-- those that waited longest come first -/
  waiting : List Waiting
  /-- the first process, and the moment at which its time is over -/
  root : Nat
  deadline : Option Nat
  /-- it was killed because its time was over -/
  isLate : Bool := false

/-- what it takes until a process takes notice -/
def noticeTime : Nat := 20

/-- what a process waits for is there -/
def Wait.isMet (s : State) (process : Nat) : Wait → Bool
  | .time _ => false
  | .input pipe => (s.pipe? pipe).all (·.size ≠ 0) || !s.hasWriter pipe
  | .room pipe octets => (s.pipe? pipe).all (fun p => octets ≤ p.room) || !s.hasReader pipe
  | .child orSignal =>
    let children := s.others.filter (·.parent = process)
    children.all (!·.isAlive) || children.any (!·.isAlive) ||
      (orSignal && (s.process? process).any (·.pending ≠ []))

namespace Schedule

/-- waits for something that is there by now become waits for a moment -/
def noticed (c : Schedule) : Schedule :=
  { c with waiting := c.waiting.map fun w =>
      if w.wait.isMet c.state w.process then { w with wait := .time (c.state.clock + noticeTime) } else w }

/-- the process is stopped or has ended -/
def isHeld (s : State) (w : Waiting) : Bool := (s.process? w.process).all fun p => p.isStopped || !p.isAlive

/-- the moment of a process's next turn, if it is known -/
def moment? (s : State) (w : Waiting) : Option Nat :=
  match w.wait with
  | .time t => if isHeld s w then none else some t
  | _ => none

/-- the first process whose moment comes first -/
def first? (s : State) (waiting : List Waiting) : Option (Nat × Waiting) :=
  waiting.foldl (fun best w => match moment? s w, best with
    | none, best => best
    | some t, none => some (t, w)
    | some t, some (t', w') => if t < t' then some (t, w) else some (t', w')) none

/-- the processes that a signal ends, ended -/
def reap (c : Schedule) : Schedule :=
  let struck := c.state.processes.filterMap fun p =>
    if p.isAlive && (!p.isStopped || p.pending.contains Signal.kill) then p.deadly?.map fun n => (p.id, n) else none
  if struck = [] then c
  else
    { c with
      state := struck.foldl (fun s (id, n) => s.endProcess id (.signalled n)) c.state
      waiting := c.waiting.filter fun w => !struck.any (·.1 = w.process) }

/-- ended processes that nobody will ask about are forgotten -/
def forget (c : Schedule) : Schedule :=
  let kept (p : Process) : Bool := p.isAlive || p.parent ≠ 0 || p.id = c.root
  { c with state := { c.state with others := c.state.others.filter kept } }

def hasEnded (c : Schedule) : Bool := (c.state.process? c.root).all (!·.isAlive)

/-- nobody can write any more to what is read outside -/
def isSilent (c : Schedule) : Bool := c.state.pipes.all fun p => !p.isDrained || !c.state.hasWriter p.number

/-- the first process killed, because its time is over -/
def cut (c : Schedule) (deadline : Nat) : Schedule :=
  { c with
    state := { c.state with clock := max c.state.clock deadline }.sendSignal c.root Signal.kill
    deadline := none
    isLate := true }

/-- what a turn has led to -/
def resume (c : Schedule) (process : Nat) : Pause → Schedule
  | .ended s => { c with state := s }
  | .waits s wait next => { c with state := s, waiting := c.waiting ++ [{ process, wait, next }] }
  | .forks s child start next =>
    { c with
      state := { s with others := child :: s.others }
      waiting := c.waiting ++
        [{ process, wait := .time (s.clock + Exec.forkTime), next },
          { process := child.id, wait := .time (s.clock + Exec.startTime), next := start }] }

/-- the turn of a process begins, at a moment -/
def begin (s : State) (process moment : Nat) : State :=
  let clock := max s.clock moment
  let s := s.switch process
  { s with clock, world := { s.world with now := s.world.now - (s.clock / 1000 : Nat) + (clock / 1000 : Nat) } }

/-- turns given until the first process has ended and nobody is listened to any more; the number only bounds how many -/
def run : Nat → Schedule → Schedule
  | 0, c => c
  | n + 1, c =>
    let c := c.reap.forget
    if c.hasEnded && c.isSilent then c
    else
      let c := c.noticed
      match first? c.state c.waiting, c.deadline.filter fun _ => !c.hasEnded with
      | none, none => c
      | none, some deadline => run n (c.cut deadline)
      | some (t, w), deadline =>
        if deadline.any (· ≤ t) then run n (c.cut (deadline.getD 0))
        else
          let state := begin c.state w.process t
          let waiting := c.waiting.filter (·.process ≠ w.process)
          run n ({ c with waiting }.resume w.process (w.next state))

end Schedule
end RunnableDocs.Machine
