/-
What a process does: a program that runs in turns.

A process runs until it has to wait, starts another process, or ends (`Pause`); what it does then is a function of the
state that it finds when its next turn comes. `Exec` builds such programs: an action is given the state and what follows
it. Each statement of a script takes a turn of its own, so processes that run at the same time come forward together.
-/
import RunnableDocs.Machine.State

namespace RunnableDocs.Machine

/-- what stops the part of a script that runs -/
inductive Stop where
  | exit (status : Nat)
  /-- a fault that ends the shell unless a command that may fail stands around it -/
  | fault (status : Nat)
  | leaveLoops (levels : Nat)
  | nextRound (levels : Nat)
  | returned (status : Nat)
  deriving DecidableEq, Repr

/-- what a process waits for -/
inductive Wait where
  | time (moment : Nat)
  /-- a pipe holds something, or nobody can write to it any more -/
  | input (pipe : Nat)
  /-- a pipe has room for so much, or nobody can read from it any more -/
  | room (pipe octets : Nat)
  /-- a child has ended, or there is none that might; a signal that is caught may count too -/
  | child (orSignal : Bool)
  deriving DecidableEq, Repr

/-- where a process stops for now -/
inductive Pause where
  | ended (s : State)
  | waits (s : State) (wait : Wait) (next : State → Pause)
  /-- another process is started beside the one at work -/
  | forks (s : State) (child : Process) (start next : State → Pause)

/-- an action: what it does with the state, and with what follows its result -/
def Exec (α : Type) : Type := State → (Except Stop α → State → Pause) → Pause

namespace Exec
variable {α β : Type}

instance : Monad Exec where
  pure a := fun s k => k (.ok a) s
  bind x f := fun s k => x s fun r s => match r with
    | .ok a => f a s k
    | .error e => k (.error e) s

instance : MonadExceptOf Stop Exec where
  throw e := fun s k => k (.error e) s
  tryCatch x h := fun s k => x s fun r s => match r with
    | .ok a => k (.ok a) s
    | .error e => h e s k

instance : MonadStateOf State Exec where
  get := fun s k => k (.ok s) s
  set s := fun _ k => k (.ok ()) s
  modifyGet f := fun s k => let (a, s) := f s; k (.ok a) s

instance : Inhabited (Exec α) := ⟨throw (.exit 0)⟩

/-- something about the state -/
def gets (f : State → α) : Exec α := fun s k => k (.ok (f s)) s

/-- an action with its reason to stop given as a result -/
def settled (x : Exec α) : Exec (Except Stop α) := fun s k => x s fun r s => k (.ok r) s

/-- after an action, however it ended, something put back that was noted before it -/
def keeping (note : State → β) (put : β → State → State) (x : Exec α) : Exec α := fun s k =>
  let noted := note s
  x s fun r s => k r (put noted s)

/-! ## Turns -/

/-- what a statement takes, in microseconds -/
def statementTime : Nat := 5

/-- what starting a process takes, for the one that starts it and for the other one -/
def forkTime : Nat := 100
def startTime : Nat := 250

/-- what taking over by another program takes -/
def programTime : Nat := 500

/-- a turn given up until something is there -/
def await (wait : Wait) : Exec Unit := fun s k => .waits s wait fun s => k (.ok ()) s

/-- time that passes -/
def pass (microseconds : Nat) : Exec Unit := fun s k =>
  .waits s (.time (s.clock + microseconds)) fun s => k (.ok ()) s

/-- the process ended, whatever would follow -/
def finish (e : End) : Exec α := fun s _ => .ended (s.endProcess s.me.id e)

/-- another process started, which does this; its number -/
def fork (x : Exec Unit) : Exec Nat := fun s k =>
  let id := s.fresh
  let child := { s.me.standing s.world with id, parent := s.me.id, pending := [] }
  let start (s : State) : Pause := x s fun _ s => .ended (s.endProcess id (.exited 0))
  .forks { s with fresh := id + 1 } child start fun s => k (.ok id) s

/-- an action repeated until it gives something; the number only bounds how often -/
def retry : Nat → Exec (Option α) → α → Exec α
  | 0, _, a => pure a
  | n + 1, x, a => do
    match ← x with
    | some b => pure b
    | none => retry n x a

/-- more often than anything is tried -/
def manyTimes : Nat := 1000000000

/-! ## The process at work -/

def changeMe (f : Process → Process) : Exec Unit := fun s k => k (.ok ()) { s with me := f s.me }

def changeShell (f : ShellState → ShellState) : Exec Unit := changeMe fun p => { p with shell := f p.shell }

/-- something about the shell -/
def ofShell (f : ShellState → α) : Exec α := gets fun s => f s.me.shell

def lookWorld (f : World → α) : Exec α := gets fun s => f s.world

/-- a change of the tree in steps that may end with a refusal -/
def attemptWorld (f : World → World × Except SystemError α) : Exec (Except SystemError α) := modifyGet fun s =>
  let (w, r) := f s.world
  (r, s.settleTree w)

/-- a change of the tree that may be refused -/
def changeWorld (f : World → Except SystemError World) : Exec (Except SystemError Unit) :=
  attemptWorld fun w => match f w with
    | .ok w => (w, .ok ())
    | .error e => (w, .error e)

/-- a signal sent to a process; if it is the one at work, its turn ends -/
def send (id signal : Nat) : Exec Unit := do
  modify (·.sendSignal id signal)
  if (← gets (·.me.id)) = id then pass 0

end Exec
end RunnableDocs.Machine
