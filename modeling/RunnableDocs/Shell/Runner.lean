/-
What runs a script: the parts of scripts that call each other, what a shell tells, and how its scripts go on and end.

Statements are run by a `Runner`, which stands for the meaning of all smaller parts of a script. A statement gives its
status; whether that is tested by what stands around it, and whether anything follows it in its process, is its `Duty`.
-/
import RunnableDocs.Machine.Complaint
import RunnableDocs.Machine.Image
import RunnableDocs.Machine.Stream
import RunnableDocs.Shell.Grammar

namespace RunnableDocs.Shell

open Machine (Exec Stop State End Image ShellState Trap)
open Machine.Exec

/-- a piece of an expanded word -/
inductive Item where
  | char (c : Char) (quoted splits : Bool)
  /-- something is quoted here, even if it is empty -/
  | something
  /-- one field ends here and another one begins -/
  | cut
  deriving DecidableEq, Repr

/-- under which circumstances a statement is run -/
structure Duty where
  /-- its status is tested, and so a failure is none that would end the shell -/
  tested : Bool := false
  /-- nothing follows it in its process -/
  last : Bool := false
  deriving DecidableEq, Repr

/-- what runs the parts of a script: each part has its meaning through that of smaller ones -/
structure Runner where
  statement : Duty → Statement → Exec Nat
  items : Word → Exec (List Item)
  /-- another program in the stead of the one at work, up to its end -/
  program : Image → Exec Unit

/-! ## Messages -/

/-- a message of the shell, told with its name and the line -/
def warnAt (line : Nat) (message : String) : Exec Unit := do
  let s ← ofShell id
  let context := (s.context.map (·.shown ++ ": ")).getD ""
  complain s!"{s.name.shown}: {line}: {context}{message}\n"

def warn (message : String) : Exec Unit := do warnAt (← ofShell (·.line)) message

def setStatus (n : Nat) : Exec Unit := changeShell fun s => { s with status := n }

/-- a fault, after it has been told of -/
def fail {α : Type} (status : Nat := 2) : Exec α := do
  setStatus status
  throw (.fault status)

def refuse {α : Type} (message : String) : Exec α := do
  warn message
  fail

/-- an action with something more told in its messages -/
def inContext {α : Type} (context : Octets) (x : Exec α) : Exec α :=
  keeping (fun s => s.me.shell.context)
    (fun old s => { s with me := { s.me with shell := { s.me.shell with context := old } } })
    (do
      changeShell fun s => { s with context := some context }
      x)

/-- a number that an argument writes -/
def number (t : Octets) : Exec Nat :=
  match Octets.toInteger? t with
  | some n => if 0 ≤ n && n < 2147483648 then pure n.toNat else refuse s!"Illegal number: {t.shown}"
  | none => refuse s!"Illegal number: {t.shown}"

def hasOption (letter : Char) : Exec Bool := ofShell (·.options.contains letter)

/-! ## Texts as scripts -/

/-- the commands of a text run, after a status -/
def Runner.commands (r : Runner) (duty : Duty) : Nat → Cursor → Nat → Exec Nat
  | 0, _, status => return status
  | n + 1, c, status => do
    match next { c with aliases := ← ofShell (·.aliases) } with
    | .nothing => return status
    | .fault f => do
      warnAt f.line f.message
      fail
    | .command (.sequence []) c _ => r.commands duty n c status
    | .command s c _ => do
      let status ← r.statement duty s
      r.commands duty n c status

/-- a text run as a script; its status -/
def Runner.text (r : Runner) (duty : Duty) (t : Octets) : Exec Nat :=
  r.commands duty (t.length + 1) { rest := t } 0

/-! ## Scripts that are read piece by piece -/

/-- what is read at once -/
def blockSize : Nat := 8192

/-- a script that is read from a descriptor -/
structure Source where
  descriptor : Nat
  cursor : Cursor := { rest := [] }
  /-- its end has been reached -/
  ended : Bool := false

/-- more of a script read, if there is more -/
def Source.more (s : Source) : Exec Source := do
  if s.ended then return s
  match ← readSome s.descriptor blockSize with
  | .ok [] => return { s with ended := true }
  | .ok o => return { s with cursor := { s.cursor with rest := s.cursor.rest ++ o.filter (· ≠ '\x00') } }
  | .error _ => return { s with ended := true }

/-- the next command of a script as far as it has been read is there as a whole -/
def isWhole : Outcome → Bool
  | .command _ c ended => !ended && !c.isCut
  | _ => false

/-- lines of a script shown as they are read, if that is asked for -/
def echoLines (o : Octets) : Exec Unit := do
  if ← hasOption 'v' then write 2 o

/-- what a command has used up of a script, as whole lines -/
def usedUp (before : Cursor) : Outcome → Octets
  | .nothing => before.rest
  | .command _ after _ => before.rest.take (before.rest.length - after.rest.length)
  | .fault f => ((Text.lines before.rest).take (f.line + 1 - before.line)).flatten

/-- the rest of a script run, after a status -/
def Runner.source (r : Runner) : Nat → Source → Nat → Exec Nat
  | 0, _, status => return status
  | n + 1, s, status => do
    let c := { s.cursor with aliases := ← ofShell (·.aliases) }
    let outcome := next c
    if !isWhole outcome && !s.ended then r.source n (← s.more) status
    else
      echoLines (usedUp c outcome)
      match outcome with
      | .nothing => return status
      | .fault f => do
        warnAt f.line f.message
        fail
      | .command (.sequence []) c _ => r.source n { s with cursor := c } status
      | .command st c _ => do
        let status ← r.statement {} st
        r.source n { s with cursor := c } status

/-! ## Ends -/

/-- the status with which a script has stopped -/
def statusOf (now : Nat) : Except Stop Nat → Nat
  | .ok _ => now
  | .error (.exit n) => n
  | .error (.fault n) => n
  | .error (.returned n) => n
  | .error (.leaveLoops _) => now
  | .error (.nextRound _) => now

/-- a shell left: what was to be run at its end is run, and its process ends -/
def Runner.leave (r : Runner) (result : Except Stop Nat) : Exec Unit := do
  let status := statusOf (← ofShell (·.status)) result
  match (← ofShell (·.traps)).find? (·.signal = 0) with
  | none => finish (.exited (status % 256))
  | some trap => do
    changeShell fun s =>
      { s with traps := s.traps.filter (·.signal ≠ 0), status, statusBefore := some status, loops := 0 }
    match ← settled (r.text {} trap.action) with
    | .error (.exit n) => finish (.exited (n % 256))
    | .error (.fault n) => finish (.exited (n % 256))
    | _ => finish (.exited (status % 256))

/-- a shell that does what it was started for and ends -/
def Runner.whole (r : Runner) (run : Exec Nat) : Exec Unit := do r.leave (← settled run)

/-- something has been left to do for signals or for the end -/
def hasTraps : Exec Bool := ofShell fun s => s.traps.any (·.action ≠ [])

/-- the shell that a process split off goes on with: what was left to do is forgotten, and other children are not its
own -/
def becomeInner : Exec Unit := changeMe fun p =>
  { p with
    caught := []
    shell := { p.shell with
      traps := p.shell.traps.filter (·.action = [])
      jobs := []
      loops := 0
      isInner := true } }

/-- a process split off that runs this and ends; its number -/
def Runner.split (r : Runner) (run : Exec Nat) : Exec Nat := fork do
  becomeInner
  r.whole run

/-- the actions that signals which have arrived ask for, carried out -/
def Runner.attend (r : Runner) : Nat → Exec Unit
  | 0 => return ()
  | n + 1 => do
    let pending ← gets fun s => s.me.pending.filter s.me.caught.contains
    match pending.min? with
    | none => return ()
    | some signal => do
      changeMe fun p => { p with pending := p.pending.filter (· ≠ signal) }
      let s ← ofShell id
      match s.traps.find? (·.signal = signal) with
      | none => pure ()
      | some trap => do
        let before := s.statusBefore
        let status := before.getD s.status
        changeShell fun s => { s with statusBefore := some status }
        match ← settled (r.text {} trap.action) with
        | .ok _ => setStatus status
        | .error (.returned n) => do
          changeShell fun s => { s with statusBefore := before }
          throw (.returned n)
        | .error e => throw e
        changeShell fun s => { s with statusBefore := before }
      r.attend n

end RunnableDocs.Shell
