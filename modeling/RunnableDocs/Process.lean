/-
Child processes: a command, what becomes of it, and how that is told.

How a child behaves is left to a `Launcher`: any function from a command, a limit and the world to the world that the
child leaves and how it ended, or the refusal to start it. What is said here holds for every launcher.
-/
import RunnableDocs.Action

namespace RunnableDocs

open Text (Bytes)

/-- a program with its arguments, and the directory that the child moves to before the program is looked for -/
structure Command where
  program : Text
  args : List Text := []
  dir : Option Path := none
  deriving DecidableEq, Repr

namespace Command

/-- the command that a list of parts names, if it has any -/
def ofParts? (parts : List Text) : Option Command :=
  match parts with
  | [] => none
  | program :: args => some { program, args }

/-- a part that could not be passed on is not shown -/
def shownPart (part : Text) : Text := if part.contains '\x00' then "<string-with-nul>".toList else part

/-- the command as one line -/
def display (c : Command) : Text := [' '].intercalate ((c.program :: c.args).map shownPart)

end Command

/-- the number that the system reports of an ended child: its exit code times 256, or the signal that killed it -/
structure WaitStatus where
  raw : Int
  deriving DecidableEq, Repr

namespace WaitStatus

def success (s : WaitStatus) : Bool := s.raw = 0

/-- the exit code of a child that no signal killed -/
def code? (s : WaitStatus) : Option Int := if s.raw % 128 = 0 then some (s.raw / 256 % 256) else none

def exited (code : Nat) : WaitStatus := ⟨code % 256 * 256⟩

def killed (signal : Nat) : WaitStatus := ⟨signal⟩

end WaitStatus

/-- how a child ended, and the bytes that it wrote -/
structure Ended where
  status : WaitStatus
  stdout : Bytes
  stderr : Bytes
  /-- it was killed because its time was over -/
  timedOut : Bool
  deriving DecidableEq, Repr

/-- starts a child, with a limit in milliseconds, and waits for its end -/
abbrev Launcher := Command → Option Nat → World → World × Except SystemError Ended

/-- how a child ended, what it wrote read as text -/
structure CommandOutput where
  status : WaitStatus
  stdout : Text
  stderr : Text
  timedOut : Bool
  deriving DecidableEq, Repr

namespace CommandOutput

def ofEnded (e : Ended) : CommandOutput := ⟨e.status, Text.decode e.stdout, Text.decode e.stderr, e.timedOut⟩

/-- a child succeeds if it ends by itself, in time, with the code 0 -/
def success (o : CommandOutput) : Bool := !o.timedOut && o.status.success

/-- what is told of a failed child: what it complained of, and before it that its time was over -/
def failureDetail (o : CommandOutput) (limit : Option Nat) : Text :=
  match limit with
  | some ms => if o.timedOut then s!"timed out after {ms / 1000}s\n".toList ++ o.stderr else o.stderr
  | none => o.stderr

end CommandOutput

/-- a command run to its end -/
def Command.run (launch : Launcher) (c : Command) (limit : Option Nat) : Action CommandOutput := fun w =>
  match launch c limit w with
  | (w', .ok ended) => ⟨[], w', .ok (.ofEnded ended)⟩
  | (w', .error e) => ⟨[], w', .error (Failure.during (.spawn c.display) e)⟩

end RunnableDocs
