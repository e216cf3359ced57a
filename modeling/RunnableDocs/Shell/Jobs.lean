/-
The children of a shell, and the jobs that they make up.

A job is what was started by one command; its status is that of its last process. A child that has ended is remembered
until the shell takes note of it. A job keeps its number until it has been told of or waited for.
-/
import RunnableDocs.Shell.Runner

namespace RunnableDocs.Shell

open Machine (Exec Process End Job)
open Machine.Exec

/-- the place of a job: the first that is free, or taken by one that has ended and been waited for -/
def freeJob (jobs : List Job) : Nat :=
  let isTaken (n : Nat) : Bool := jobs.any fun j => j.number = n && !(j.isDone && j.waited)
  ((List.range (jobs.length + 1)).map (· + 1)).find? (!isTaken ·) |>.getD 1

/-- processes taken for a new job; its number -/
def addJob (processes : List Nat) : Exec Nat := do
  let number := freeJob (← ofShell (·.jobs))
  changeShell fun s =>
    { s with jobs := { number, processes := processes.map (·, none) } :: s.jobs.filter (·.number ≠ number) }
  return number

def dropJob (number : Nat) : Exec Unit := changeShell fun s => { s with jobs := s.jobs.filter (·.number ≠ number) }

def job? (number : Nat) : Exec (Option Job) := ofShell fun s => s.jobs.find? (·.number = number)

/-- a job with the end of a process noted -/
def Job.note (j : Job) (process : Nat) (e : End) : Job :=
  { j with processes := j.processes.map fun p => if p.1 = process then (process, some e) else p }

/-- the child that ended first of those not taken note of -/
def endedChild? : Exec (Option Process) := gets fun s =>
  (s.others.filter fun p => p.parent = s.me.id && !p.isAlive).foldl (fun best p => match best with
    | none => some p
    | some b => if p.endOrder < b.endOrder then some p else some b) none

/-- a child that has ended taken note of, if there is one; if it belongs to the job waited for and a signal ended it, that
is told -/
def noteChild (awaited : Option Nat) : Exec Bool := do
  match ← endedChild? with
  | none => return false
  | some p => do
    let e := p.ended.getD (.exited 0)
    let owner := (← ofShell (·.jobs)).find? fun j => j.processes.any (·.1 = p.id)
    modify fun s => { s with others := s.others.filter (·.id ≠ p.id) }
    changeShell fun s => { s with jobs := s.jobs.map fun j => Job.note j p.id e }
    match owner, e with
    | some j, .signalled n =>
      if awaited = some j.number && n ≠ Machine.Signal.interrupt && n ≠ Machine.Signal.brokenPipe then
        complain s!"{Machine.Signal.words n}\n"
    | _, _ => pure ()
    return true

/-- all children that have ended taken note of -/
def noteChildren : Exec Unit := retry manyTimes (do
  if ← noteChild none then return none else return some ()) ()

/-- a job waited for, which is gone then; its status -/
def waitForJob (number : Nat) : Exec Nat := retry manyTimes (do
  match ← job? number with
  | none => return some 0
  | some j =>
    if j.isDone then do
      noteChildren
      dropJob number
      return some j.status
    else if ← noteChild (some number) then return none
    else do
      await (.child false)
      return none) 0

/-- everything that is written to a descriptor until nobody can write to it any more -/
def readAll (fd : Nat) : Nat → List Octets → Exec Octets
  | 0, read => return read.reverse.flatten
  | n + 1, read => do
    match ← readSome fd Machine.Pipe.capacity with
    | .ok [] => return read.reverse.flatten
    | .ok o => readAll fd n (o :: read)
    | .error _ => return read.reverse.flatten

/-- a pipe made; the numbers of its ends -/
def openPipe : Exec (Nat × Nat) := do
  let (reading, writing) ← modifyGet fun s =>
    let (s, reading, writing) := s.makePipe
    ((reading, writing), s)
  modify fun s => s.setDescriptor { number := s.freeNumber 0, opened := reading }
  modify fun s => s.setDescriptor { number := s.freeNumber 0, opened := writing }
  gets fun s =>
    let numberOf (opened : Nat) : Nat := ((s.me.descriptors.find? (·.opened = opened)).map (·.number)).getD 0
    (numberOf reading, numberOf writing)

/-- a descriptor made to lead where another one leads, which is closed if it is a different one -/
def moveDescriptor (source target : Nat) : Exec Unit := do
  if source ≠ target then
    if let some d ← gets fun s => s.me.descriptor? source then setDescriptor target d.opened
    closeDescriptor source

end RunnableDocs.Shell
