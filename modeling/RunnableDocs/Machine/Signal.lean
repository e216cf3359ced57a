/-
Signals: their numbers and names, what they do to a process that has made no provision for them, and how it is told that
a process was ended by one.
-/
import RunnableDocs.Text.Octets

namespace RunnableDocs.Machine.Signal

/-- how many numbers there are, the zero included that stands for the end of a shell -/
def count : Nat := 65

def named : List (Nat × String) :=
  [(0, "EXIT"), (1, "HUP"), (2, "INT"), (3, "QUIT"), (4, "ILL"), (5, "TRAP"), (6, "ABRT"), (7, "BUS"), (8, "FPE"),
    (9, "KILL"), (10, "USR1"), (11, "SEGV"), (12, "USR2"), (13, "PIPE"), (14, "ALRM"), (15, "TERM"), (17, "CHLD"),
    (18, "CONT"), (19, "STOP"), (20, "TSTP"), (21, "TTIN"), (22, "TTOU"), (23, "URG"), (24, "XCPU"), (25, "XFSZ"),
    (26, "VTALRM"), (27, "PROF"), (28, "WINCH"), (29, "IO"), (30, "PWR"), (31, "SYS")]

/-- the name of a signal; those without one are called by their numbers -/
def name (n : Nat) : String :=
  match named.lookup n with
  | some s => s
  | none =>
    if n = 34 then "RTMIN"
    else if n = 64 then "RTMAX"
    else if 34 < n && n < 50 then s!"RTMIN+{n - 34}"
    else if 50 ≤ n && n < 64 then s!"RTMAX-{64 - n}"
    else toString n

/-- the signal of a number, or of a name in letters of any case -/
def ofText? (t : Octets) : Option Nat :=
  match Octets.toNat? t with
  | some n => if n < count then some n else none
  | none => (List.range count).find? fun n => (name n).toList = t.map Char.toUpper

/-- what is told of a process that a signal has ended -/
def words (n : Nat) : String :=
  match n with
  | 1 => "Hangup"
  | 2 => "Interrupt"
  | 3 => "Quit"
  | 4 => "Illegal instruction"
  | 5 => "Trace/breakpoint trap"
  | 6 => "Aborted"
  | 7 => "Bus error"
  | 8 => "Floating point exception"
  | 9 => "Killed"
  | 10 => "User defined signal 1"
  | 11 => "Segmentation fault"
  | 12 => "User defined signal 2"
  | 13 => "Broken pipe"
  | 14 => "Alarm clock"
  | 15 => "Terminated"
  | 16 => "Stack fault"
  | 17 => "Child exited"
  | 18 => "Continued"
  | 19 => "Stopped (signal)"
  | 20 => "Stopped"
  | 21 => "Stopped (tty input)"
  | 22 => "Stopped (tty output)"
  | 23 => "Urgent I/O condition"
  | 24 => "CPU time limit exceeded"
  | 25 => "File size limit exceeded"
  | 26 => "Virtual timer expired"
  | 27 => "Profiling timer expired"
  | 28 => "Window changed"
  | 29 => "I/O possible"
  | 30 => "Power failure"
  | 31 => "Bad system call"
  | n => if 34 ≤ n then s!"Real-time signal {n - 34}" else s!"Unknown signal {n}"

/-- what a signal does to a process that neither ignores nor catches it -/
inductive Effect where
  | ends
  | stops
  | resumes
  | nothing
  deriving DecidableEq, Repr

def effect (n : Nat) : Effect :=
  if n = 17 || n = 23 || n = 28 then .nothing
  else if n = 18 then .resumes
  else if 19 ≤ n && n ≤ 22 then .stops
  else .ends

/-- what nobody can ignore or catch -/
def isInevitable (n : Nat) : Bool := n = 9 || n = 19

def interrupt : Nat := 2
def quit : Nat := 3
def kill : Nat := 9
def brokenPipe : Nat := 13
def terminate : Nat := 15
def child : Nat := 17

end RunnableDocs.Machine.Signal
