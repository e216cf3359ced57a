/-
Redirections: descriptors made to lead elsewhere, for one command or for good.

Targets are worked out before anything is opened. What a descriptor led to before is kept under a number that no other
program sees, so that it can be put back (`undo`).
-/
import RunnableDocs.Shell.Expansion

namespace RunnableDocs.Shell

open Machine (Exec Stop)
open Machine.Exec

/-- a redirection with its target worked out -/
inductive Prepared where
  | file (descriptor : Nat) (opening : Opening) (path : Octets)
  | duplicate (descriptor source : Nat)
  | close (descriptor : Nat)
  /-- the word is worked out when the descriptor is changed -/
  | here (descriptor : Nat) (text : Word)

def Prepared.descriptor : Prepared → Nat
  | file d _ _ => d
  | duplicate d _ => d
  | close d => d
  | here d _ => d

def Runner.prepare (r : Runner) : Redirection → Exec Prepared
  | .mk fd .here w => return .here fd w
  | .mk fd .duplicate w => do
    match ← r.expand w with
    | [] => refuse "redir error"
    | ['-'] :: _ => return .close fd
    | [c] :: _ =>
      if c.isDigit then return .duplicate fd (c.toNat - 48) else refuse "Syntax error: Bad fd number"
    | _ => refuse "Syntax error: Bad fd number"
  | .mk fd opening w => return .file fd opening (← r.joined w)

/-- a refusal to open a file, in the words of the shell -/
def openWords (opening : Opening) (e : SystemError) : String :=
  if e = .noEntry || e = .notDirectory then
    (if opening = .read then "No such file" else "Directory nonexistent")
  else e.words

/-- how a file is opened -/
def accessFor : Opening → Access
  | .read => { reads := true }
  | .both => { reads := true, writes := true }
  | .append => { writes := true, appends := true }
  | _ => { writes := true, truncates := true }

/-- a file that must be kept is not to be written over -/
def isProtected (path : Octets) : Exec Bool := do
  if ← hasOption 'C' then
    return match ← lookWorld (·.at? (Octets.toText path)) with
      | .ok (.file _ _) => true
      | .ok (.tool _) => true
      | _ => false
  else return false

def openPath (opening : Opening) (path : Octets) : Exec Nat := do
  let isKept ← if opening = .write then isProtected path else pure false
  match ← (if isKept then pure (.error .alreadyExists) else openFile path (accessFor opening)) with
  | .ok opened => return opened
  | .error e =>
    let verb := if opening = .read then "open" else "create"
    refuse s!"cannot {verb} {path.shown}: {openWords opening e}"

/-- a text that can be read from what is opened here -/
def openText (t : Octets) : Exec Nat := modifyGet fun s =>
  let (s, reading, _) := s.makePipe
  match s.pipes with
  | p :: rest => (reading, { s with pipes := { p with front := t, size := t.length } :: rest })
  | [] => (reading, s)

/-- what is put back when a redirection is over: the number under which it is kept, if there was anything -/
abbrev Undo := List (Nat × Option Nat)

/-- the least number under which something is kept -/
def keptFrom : Nat := 10

/-- what a descriptor leads to kept, so that it can be put back -/
def keep (fd : Nat) (u : Undo) : Exec Undo := do
  if (u.lookup fd).isSome then return u
  else match ← gets fun s => s.me.descriptor? fd with
    | none => return (fd, none) :: u
    | some d => do
      let number ← gets (·.freeNumber keptFrom)
      modify (·.setDescriptor { number, opened := d.opened, isPrivate := true })
      return (fd, some number) :: u

/-- a redirection carried out, and what is to be put back if that is asked for; the second part tells whether it went
well -/
def Runner.perform (r : Runner) (keeps : Bool) (p : Prepared) (u : Undo) : Exec (Undo × Except Stop Unit) := do
  let fd := p.descriptor
  let kept : Exec Undo := if keeps then keep fd u else pure u
  let put (opening : Exec Nat) : Exec (Undo × Except Stop Unit) := do
    match ← settled opening with
    | .error e => return (u, .error e)
    | .ok opened => do
      let u ← kept
      setDescriptor fd opened
      return (u, .ok ())
  match p with
  | .file _ opening path => put (openPath opening path)
  | .here _ w => put do openText (← r.flat w)
  | .close _ => do
    let u ← kept
    closeDescriptor fd
    return (u, .ok ())
  | .duplicate _ source =>
    if source = fd then return (u, .ok ())
    else do
      let u ← kept
      match ← gets fun s => s.me.descriptor? source with
      | some d => do
        setDescriptor fd d.opened
        return (u, .ok ())
      | none => return (u, ← settled (refuse s!"{source}: Bad file descriptor"))

def Runner.performAll (r : Runner) (keeps : Bool) : List Prepared → Undo → Exec (Undo × Except Stop Unit)
  | [], u => return (u, .ok ())
  | p :: rest, u => do
    match ← r.perform keeps p u with
    | (u, .ok ()) => r.performAll keeps rest u
    | (u, .error e) => return (u, .error e)

/-- redirections undone, or left as they are for good -/
def undo (forGood : Bool) (u : Undo) : Exec Unit := do
  for (fd, kept) in u do
    match kept with
    | some number => do
      if !forGood then
        if let some d ← gets fun s => s.me.descriptor? number then setDescriptor fd d.opened
      closeDescriptor number
    | none => if !forGood then closeDescriptor fd

/-- redirections of the process at work that are not undone -/
def Runner.redirect (r : Runner) (redirections : List Redirection) : Exec Unit := do
  let prepared ← redirections.mapM r.prepare
  match ← r.performAll false prepared [] with
  | (_, .ok ()) => return ()
  | (_, .error e) => throw e

/-- an action under redirections, which are undone after it; if they fail that is told to it by their status -/
def Runner.redirecting {α : Type} (r : Runner) (redirections : List Redirection)
    (x : Undo → Except Nat Unit → Exec α) (forGood : Exec Bool) : Exec α := do
  if redirections = [] then x [] (.ok ())
  else
    let prepared ← redirections.mapM r.prepare
    let (u, outcome) ← r.performAll true prepared []
    let result ← match outcome with
      | .ok () => settled (x u (.ok ()))
      | .error (.fault n) => settled (x u (.error n))
      | .error e => pure (.error e)
    undo (← forGood) u
    match result with
    | .ok a => return a
    | .error e => throw e

end RunnableDocs.Shell
