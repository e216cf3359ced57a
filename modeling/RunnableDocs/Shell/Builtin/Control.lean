/-
The commands of a shell on its own course: its ends, its loops, signals, jobs, and limits.
-/
import RunnableDocs.Shell.Builtin.Printing
import RunnableDocs.Shell.Jobs

namespace RunnableDocs.Shell.Builtin

open Machine (Exec Stop Job End)
open Machine.Exec

/-! ## Ends and loops -/

def exit_ (args : List Octets) : Exec Nat := do
  let s ← ofShell id
  let status ← match args with
    | [] => pure (s.statusBefore.getD s.status)
    | t :: _ => number t
  throw (.exit status)

def return_ (args : List Octets) : Exec Nat := do
  let status ← match args with
    | [] => ofShell (·.status)
    | t :: _ => number t
  throw (.returned status)

/-- out of so many loops, of those that there are -/
def leaveLoops (stop : Nat → Stop) (args : List Octets) : Exec Nat := do
  let n ← match args with
    | [] => pure 1
    | t :: _ => number t
  if n = 0 then refuse s!"Illegal number: {(args.headD []).shown}"
  let loops ← ofShell (·.loops)
  if loops = 0 then return 0 else throw (stop (min n loops))

/-! ## Signals -/

/-- something left to do, or nothing any more, when a signal arrives -/
def setTrap (signal : Nat) (action : Option Octets) : Exec Unit := changeMe fun p =>
  let others := p.shell.traps.filter (·.signal ≠ signal)
  let traps := match action with
    | none => others
    | some action => { signal, action } :: others
  let without (l : List Nat) : List Nat := l.filter (· ≠ signal)
  let isReal := signal ≠ 0 && !p.shell.untrappable.contains signal
  { p with
    shell := { p.shell with traps }
    ignored := if !isReal then p.ignored
      else if action = some [] then signal :: without p.ignored else without p.ignored
    caught := if isReal && action.any (· ≠ []) then signal :: without p.caught else without p.caught }

def trap (args : List Octets) : Exec Nat := do
  let (_, args) ← optionsOf "" args
  match args with
  | [] => do
    let traps ← ofShell (·.traps)
    for signal in List.range Machine.Signal.count do
      if let some t := traps.find? (·.signal = signal) then
        printLine ("trap -- ".toList ++ quoted t.action ++ ' ' :: (Machine.Signal.name signal).toList)
    return 0
  | first :: rest => do
    let isSignal := rest = [] || ((Octets.toNat? first).any (· < Machine.Signal.count))
    let action := if isSignal || first = ['-'] then none else some first
    for name in (if isSignal then args else rest) do
      match Machine.Signal.ofText? name with
      | none => do
        complain s!"trap: {name.shown}: bad trap\n"
        return 1
      | some n => setTrap n action
    return 0

def killUsage : String :=
  "Usage: kill [-s sigspec | -signum | -sigspec] [pid | job]... or\nkill -l [exitstatus]"

/-- a signal by its number, or by a name that stands for a real one -/
def signal? (t : Octets) : Option Nat :=
  (Machine.Signal.ofText? t).filter fun n => n ≠ 0 || (Octets.toNat? t).isSome

/-- the job that a word names -/
def jobOf (word : Option Octets) : Exec Job := do
  let jobs ← ofShell (·.jobs)
  let name := (word.map (·.shown)).getD "(null)"
  match word with
  | none => match jobs with
    | j :: _ => return j
    | [] => refuse "No current job"
  | some w =>
    match w with
    | '%' :: rest =>
      if rest = [] || rest = ['+'] || rest = ['%'] then
        match jobs with
        | j :: _ => return j
        | [] => refuse "No current job"
      else if rest = ['-'] then
        match jobs with
        | _ :: j :: _ => return j
        | _ => refuse "No previous job"
      else match (Octets.toNat? rest).bind fun n => jobs.find? (·.number = n) with
        | some j => return j
        | none =>
          match rest, jobs with
          | ['?'], [j] => return j
          | ['?'], _ :: _ :: _ => refuse s!"{name}: ambiguous"
          | _, _ => refuse s!"No such job: {name}"
    | _ => refuse s!"No such job: {name}"

/-- signals sent to processes; the status tells whether all of them were there -/
def sendAll (signal : Nat) : List Octets → Nat → Exec Nat
  | [], status => return status
  | target :: rest, status => do
    let process ← match target with
      | '%' :: _ => do
        let _ ← jobOf (some target)
        pure none
      | '-' :: digits => do
        let _ ← number digits
        pure none
      | digits => do pure (some (← number digits))
    let s ← gets id
    let isThere := process.any fun n => (s.process? n).isSome || (n = s.me.parent && signal = 0)
    match process, isThere with
    | some n, true => do
      send n signal
      sendAll signal rest status
    | _, _ => do
      warn "No such process\n"
      sendAll signal rest 1

/-- the signals told by their names -/
def listSignals (args : List Octets) : Exec Nat := do
  match args with
  | [] => do
    print "0\n".toList
    for n in List.range (Machine.Signal.count - 1) do printLine (Machine.Signal.name (n + 1)).toList
    return 0
  | t :: _ => do
    let n ← number t
    let n := if 128 < n then n - 128 else n
    if 0 < n && n < Machine.Signal.count then
      printLine (Machine.Signal.name n).toList
      return 0
    else refuse s!"invalid signal number or exit status: {t.shown}"

def kill (args : List Octets) : Exec Nat := do
  let send (signal : Nat) (targets : List Octets) : Exec Nat :=
    if targets = [] then refuse killUsage else sendAll signal targets 0
  match args with
  | [] => refuse killUsage
  | ('-' :: name) :: rest => do
    match signal? name with
    | some n => send n rest
    | none => do
      let (options, rest) ← optionsOf "ls:" args
      let mut chosen := none
      for (c, t) in options do
        if c = 's' then
          match signal? t with
          | some n => chosen := some n
          | none => refuse s!"invalid signal number or name: {t.shown}"
      if options.any (·.1 = 'l') then
        if chosen.isSome then refuse killUsage else listSignals rest
      else send (chosen.getD Machine.Signal.terminate) rest
  | _ => send Machine.Signal.terminate args

/-! ## Jobs -/

/-- how a job goes, in words -/
def jobWords (j : Job) : String :=
  if !j.isDone then "Running"
  else match j.processes.getLast?.bind (·.2) with
    | some (.signalled n) => Machine.Signal.words n
    | some (.exited 0) => "Done"
    | some (.exited n) => s!"Done({n})"
    | none => "Done"

/-- a line filled up to a width, with one blank at least -/
def filledLine (width : Nat) (t : String) : String :=
  t ++ String.ofList (List.replicate (max 1 (width - t.length)) ' ')

/-- a job told of; one that has ended is forgotten then -/
def showJob (mode : Option Char) (j : Job) : Exec Unit := do
  let jobs ← ofShell (·.jobs)
  let place := match jobs with
    | a :: b :: _ => if a.number = j.number then "+" else if b.number = j.number then "-" else " "
    | a :: _ => if a.number = j.number then "+" else " "
    | [] => " "
  let first := ((j.processes.head?.map (·.1)).getD 0)
  match mode with
  | some 'p' => print s!"{first}\n".toList
  | some _ => do
    let head := s!"[{j.number}] {place} "
    print (filledLine 33 (head ++ toString first ++ " " ++ jobWords j)).toList
    for p in j.processes.drop 1 do
      let line := String.ofList (List.replicate (head.length + 1) ' ') ++ toString p.1 ++ " "
      print (" |\n" ++ filledLine 30 line).toList
    print ['\n']
  | none => do
    print (filledLine 33 (s!"[{j.number}] {place} " ++ jobWords j)).toList
    for _ in j.processes.drop 1 do print " | ".toList
    print ['\n']
  if j.isDone then dropJob j.number

def jobs (args : List Octets) : Exec Nat := do
  let (options, names) ← optionsOf "lp" args
  let mode := options.getLast?.map (·.1)
  if names = [] then
    noteChildren
    for j in ← ofShell (·.jobs) do showJob mode j
  else for name in names do showJob mode (← jobOf (some name))
  return 0

/-- a job brought to the front or let go on, which needs a terminal -/
def resume (args : List Octets) : Exec Nat := do
  let (_, args) ← optionsOf "" args
  let _ ← jobOf args.head?
  let named := (args.head?.map (·.shown)).getD "(null)"
  refuse s!"job {named} not created under job control"

/-- one more child that has ended waited for; nothing if a signal that is caught comes before that -/
def awaitChild (awaited : Option Nat) : Exec (Option Nat) := retry manyTimes (do
  if ← noteChild awaited then return some none
  else
    match ← gets fun s => s.me.pending.find? s.me.caught.contains with
    | some signal => return some (some signal)
    | none => do
      await (.child true)
      return none) none

/-- children waited for until this holds of the jobs; the signal that came before that, if one did -/
def awaitUntil (awaited : Option Nat) (holds : List Job → Bool) : Exec (Option Nat) := retry manyTimes (do
  if holds (← ofShell (·.jobs)) then return some none
  else match ← awaitChild awaited with
    | some signal => return some (some signal)
    | none => return none) none

/-- the jobs named waited for one after the other; the status of the last one -/
def waitFor : List Octets → Nat → Exec Nat
  | [], status => return status
  | name :: rest, status => do
    let found ← match name with
      | '%' :: _ => do pure (some (← jobOf (some name)))
      | digits => do
        let n ← number digits
        ofShell fun s => s.jobs.find? fun j => (j.processes.getLast?.map (·.1)) = some n
    match found with
    | none => waitFor rest status
    | some j => do
      match ← awaitUntil (some j.number) fun jobs => (jobs.find? (·.number = j.number)).all (·.isDone) with
      | some signal => return 128 + signal
      | none => do
        let ended := (← job? j.number).getD j
        changeShell fun s =>
          { s with jobs := s.jobs.map fun j' => if j'.number = j.number then { j' with waited := true } else j' }
        waitFor rest ended.status

def wait (args : List Octets) : Exec Nat := do
  let (_, names) ← optionsOf "" args
  if names = [] then
    match ← awaitUntil none (·.all (·.isDone)) with
    | some signal => return 128 + signal
    | none => do
      changeShell fun s => { s with jobs := s.jobs.map ({ · with waited := true }) }
      return 0
  else waitFor names 127

/-! ## Limits -/

/-- permissions as letters -/
def permissionLetters (mode : Nat) : String :=
  let part (who : String) (shift : Nat) : String :=
    let bits := mode / shift % 8
    who ++ "=" ++ (if bits &&& 4 ≠ 0 then "r" else "") ++ (if bits &&& 2 ≠ 0 then "w" else "") ++
      (if bits &&& 1 ≠ 0 then "x" else "")
  part "u" 64 ++ "," ++ part "g" 8 ++ "," ++ part "o" 1

/-- four octal digits -/
def fourDigits (n : Nat) : Octets := Octets.octal (Char.ofNat n) |> ('0' :: ·)

/-- permissions changed as letters ask for it; `start` are those from before all changes -/
def changedByLetters (start : Nat) : Nat → Nat → Nat → Octets → Option Nat
  | 0, _, _, _ => none
  | _ + 1, mode, _, [] => some mode
  | n + 1, mode, who, t =>
    let letters := t.takeWhile "augo".toList.contains
    let bit (c : Char) : Nat := if c = 'a' then 0o111 else if c = 'u' then 0o100 else if c = 'g' then 0o010 else 0o001
    let who := letters.foldl (fun w c => w ||| bit c) who
    let who := if who = 0 then 0o111 else who
    match t.drop letters.length with
    | op :: rest =>
      if !"=+-".toList.contains op then none
      else
        let what := rest.takeWhile "rwxugoXs".toList.contains
        let value (c : Char) : Nat := match c with
          | 'r' => 4
          | 'w' => 2
          | 'x' => 1
          | 'u' => start / 64
          | 'g' => start / 8
          | 'o' => start
          | 'X' => if start &&& 0o111 ≠ 0 then 1 else 0
          | _ => 0
        let bits := ((what.foldl (fun v c => v ||| value c) 0) &&& 7) * who
        let mode := match op with
          | '-' => mode - (mode &&& bits)
          | '=' => bits ||| (mode - (mode &&& who * 7))
          | _ => mode ||| bits
        match rest.drop what.length with
        | ',' :: rest => changedByLetters start n mode 0 rest
        | [] => some mode
        | c :: rest => if "=+-".toList.contains c then changedByLetters start n mode who (c :: rest) else none
    | [] => none

def umask (args : List Octets) : Exec Nat := do
  let (options, args) ← optionsOf "S" args
  let mask ← gets (·.me.mask)
  match args with
  | [] => do
    if options = [] then printLine (fourDigits mask) else printLine (permissionLetters (511 - mask)).toList
    return 0
  | t :: _ => do
    let new ← if (t.headD ' ').isDigit then
        if t.all Octets.isOctal then pure (Octets.ofOctal t % 512) else refuse s!"Illegal number: {t.shown}"
      else match changedByLetters (511 - mask) (t.length + 1) (511 - mask) 0 t with
        | some mode => pure (511 - mode)
        | none => refuse s!"Illegal mode: {t.shown}"
    changeMe fun p => { p with mask := new }
    return 0

/-- the limits by their letters, with their names and values -/
def limits : List (Char × String × String) :=
  [('t', "time(seconds)", "unlimited"), ('f', "file(blocks)", "unlimited"), ('d', "data(kbytes)", "unlimited"),
    ('s', "stack(kbytes)", "8192"), ('c', "coredump(blocks)", "0"), ('m', "memory(kbytes)", "unlimited"),
    ('l', "locked memory(kbytes)", "8192"), ('p', "process", "unlimited"), ('n', "nofiles", "1048576"),
    ('v', "vmemory(kbytes)", "unlimited"), ('w', "locks", "unlimited"), ('r', "rtprio", "0")]

def ulimit (args : List Octets) : Exec Nat := do
  let (options, args) ← optionsOf "HSatfdscmlpnvwr" args
  let isAll := options.any (·.1 = 'a')
  let letter := ((options.filter fun o => !"HSa".toList.contains o.1).getLast?.map (·.1)).getD 'f'
  let set ← ofShell (·.limits)
  let value (c : Char) (given : String) : Octets := (set.lookup c).getD given.toList
  match args with
  | [] => do
    for (c, name, given) in limits do
      if isAll then printLine ((filledLine 21 name).toList ++ value c given)
      else if c = letter then printLine (value c given)
    return 0
  | t :: more => do
    if isAll || more ≠ [] then refuse "too many arguments"
    if t ≠ "unlimited".toList && !t.all Char.isDigit then refuse "bad number"
    changeShell fun s => { s with limits := (letter, t) :: s.limits.filter (·.1 ≠ letter) }
    return 0

def times : List Octets → Exec Nat := fun _ => do
  for _ in [0, 1] do print "0m0.000000s 0m0.000000s\n".toList
  return 0

end RunnableDocs.Shell.Builtin
