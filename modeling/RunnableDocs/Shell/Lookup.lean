/-
What the name of a command stands for: a part of the shell, a function, or a program that is looked for.
-/
import RunnableDocs.Shell.Builtin.Control
import RunnableDocs.Shell.Builtin.Directory
import RunnableDocs.Shell.Builtin.Naming
import RunnableDocs.Shell.Test

namespace RunnableDocs.Shell

open Machine (Exec Image)
open Machine.Exec

/-! ## Programs -/

/-- a path leads to something that can be run -/
def isRunnable (w : World) (path : Octets) : Bool :=
  match w.at? (Octets.toText path) with
  | .ok (.tool _) => true
  | .ok (.file _ mode) => mode &&& 0o111 ≠ 0
  | _ => false

/-- the first of some paths that leads to a program; else why none does -/
def firstRunnable (w : World) : SystemError → List Octets → Except SystemError Octets
  | e, [] => .error e
  | e, path :: rest =>
    if isRunnable w path then .ok path
    else match w.at? (Octets.toText path) with
      | .ok _ => firstRunnable w .accessDenied rest
      | .error e' => firstRunnable w (if e' = .noEntry || e' = .notDirectory then e else e') rest

/-- the search path -/
def searchPath : Exec Octets := return (← value? "PATH".toList).getD []

/-- where the program of a name without slashes is, which is kept for the next time -/
def locate (search name : Octets) : Exec (Except SystemError Octets) := do
  let found ← match (← ofShell (·.hashed)).lookup name with
    | some path => pure (.ok path)
    | none => pure (firstRunnable (← lookWorld id) .noEntry (Image.candidates search name))
  if let .ok path := found then
    changeShell fun s => { s with hashed := (name, path) :: s.hashed.filter (·.1 ≠ name) }
  return found

/-- a refusal to run a program, in the words of the shell -/
def runWords (e : SystemError) : String :=
  if e = .noEntry || e = .notDirectory then "not found" else e.words

/-! ## Parts of the shell -/

/-- a command that is a part of the shell -/
structure Builtin where
  /-- a fault of it ends the shell, and assignments before it stay -/
  isSpecial : Bool := false
  /-- arguments that look like assignments are taken as such -/
  takesAssignments : Bool := false
  /-- what it does; nothing is given for those that run other commands -/
  run : Option (List Octets → Exec Nat) := none

namespace Builtin

/-- the place of a name among the programs that have been located -/
def hashBucket (name : Octets) : Nat :=
  (name.foldl (fun n c => n + c.toNat) ((name.headD '\x00').toNat * 16)) % 32768 % 31

def plain (run : List Octets → Exec Nat) : Option Builtin := some { run := some run }
def special (run : List Octets → Exec Nat) : Option Builtin := some { isSpecial := true, run := some run }
def declaring (run : List Octets → Exec Nat) : Option Builtin :=
  some { isSpecial := true, takesAssignments := true, run := some run }

end Builtin

/-- the words that describe what a name stands for, long or short, and its status -/
def describe (search : Octets) (isDefault long : Bool) (name : Octets) (isBuiltin : Octets → Option Bool) :
    Exec Nat := do
  let s ← ofShell id
  let tell (short : Octets) (words : String) : Exec Nat := do
    Builtin.printLine (if long then name ++ words.toList else short)
    return 0
  if keywords.contains (String.ofList name) then tell name " is a shell keyword"
  else match s.aliases.lookup name with
    | some text => tell ("alias ".toList ++ Builtin.aliasShown (name, text)) s!" is an alias for {text.shown}"
    | none =>
      if s.functions.any (·.1 = name) then tell name " is a shell function"
      else match isBuiltin name with
        | some isSpecial => tell name (if isSpecial then " is a special shell builtin" else " is a shell builtin")
        | none => do
          let isTracked := !isDefault && (s.hashed.lookup name).isSome
          let found ← if name.contains '/' then do
              pure ((← lookWorld (·.at? (Octets.toText name))).map fun _ => name)
            else if isDefault then do
              pure (firstRunnable (← lookWorld id) .noEntry (Image.candidates search name))
            else locate search name
          match found with
          | .ok path => tell path ((if isTracked then " is a tracked alias for " else " is ") ++ path.shown)
          | .error _ => do
            if long then print (name ++ ": not found\n".toList)
            return 127

/-- each name described; the greatest status -/
def describeAll (search : Octets) (isDefault long : Bool) (isBuiltin : Octets → Option Bool) :
    List Octets → Exec Nat
  | [] => return 0
  | name :: rest => do
    let status ← describe search isDefault long name isBuiltin
    return max status (← describeAll search isDefault long isBuiltin rest)

def hash (isBuiltin : Octets → Option Bool) (args : List Octets) : Exec Nat := do
  let (options, names) ← optionsOf "r" args
  if options ≠ [] then
    changeShell fun s => { s with hashed := [] }
    return 0
  if names = [] then
    let sorted := (← ofShell (·.hashed)).reverse.mergeSort fun a b =>
      Builtin.hashBucket a.1 ≤ Builtin.hashBucket b.1
    for (_, path) in sorted do Builtin.printLine path
    return 0
  let mut status := 0
  for name in names do
    changeShell fun s => { s with hashed := s.hashed.filter (·.1 ≠ name) }
    let isKnown := (isBuiltin name).isSome || (← ofShell (·.functions.any (·.1 = name)))
    if !isKnown && !name.contains '/' then
      match ← locate (← searchPath) name with
      | .ok _ => pure ()
      | .error e => do
        warn s!"{name.shown}: {runWords e}"
        status := 1
  return status

/-- the commands by their names, as far as they do not describe others -/
def plainBuiltin? (name : Octets) : Option Builtin :=
  match String.ofList name with
  | ":" => Builtin.special fun _ => return 0
  | "true" => Builtin.plain fun _ => return 0
  | "false" => Builtin.plain fun _ => return 1
  | "test" => Builtin.plain (Test.run name)
  | "[" => Builtin.plain (Test.run name)
  | "echo" => Builtin.plain Builtin.echo
  | "printf" => Builtin.plain Builtin.printf
  | "cd" => Builtin.plain Builtin.cd
  | "chdir" => Builtin.plain Builtin.cd
  | "pwd" => Builtin.plain Builtin.pwd
  | "export" => Builtin.declaring Builtin.export_
  | "readonly" => Builtin.declaring Builtin.readonly
  | "local" => Builtin.declaring Builtin.local_
  | "unset" => Builtin.special Builtin.unset
  | "read" => Builtin.plain Builtin.read
  | "shift" => Builtin.special Builtin.shift
  | "set" => Builtin.special Builtin.set_
  | "getopts" => Builtin.plain Builtin.getopts
  | "alias" => some { takesAssignments := true, run := some Builtin.alias_ }
  | "unalias" => Builtin.plain Builtin.unalias
  | "exit" => Builtin.special Builtin.exit_
  | "return" => Builtin.special Builtin.return_
  | "break" => Builtin.special (Builtin.leaveLoops .leaveLoops)
  | "continue" => Builtin.special (Builtin.leaveLoops .nextRound)
  | "trap" => Builtin.special Builtin.trap
  | "times" => Builtin.special Builtin.times
  | "kill" => Builtin.plain Builtin.kill
  | "wait" => Builtin.plain Builtin.wait
  | "jobs" => Builtin.plain Builtin.jobs
  | "fg" => Builtin.plain Builtin.resume
  | "bg" => Builtin.plain Builtin.resume
  | "umask" => Builtin.plain Builtin.umask
  | "ulimit" => Builtin.plain Builtin.ulimit
  | "." => some { isSpecial := true }
  | "eval" => some { isSpecial := true }
  | "exec" => some { isSpecial := true }
  | _ => none

/-- a name stands for a part of the shell; whether that is special -/
def isBuiltin (name : Octets) : Option Bool :=
  if ["command", "hash", "type"].contains (String.ofList name) then some false
  else (plainBuiltin? name).map (·.isSpecial)

/-- what is left of the command that runs others, when it only describes them -/
def command (args : List Octets) : Exec Nat := do
  let (options, names) ← optionsOf "pvV" args
  let isDefault := options.any (·.1 = 'p')
  let search ← if isDefault then pure Image.defaultSearchPath else searchPath
  let long := options.any (·.1 = 'V')
  match names, long || options.any (·.1 = 'v') with
  | name :: _, true => describe search isDefault long name isBuiltin
  | _, _ => return 0

/-- the commands that are parts of the shell, by their names -/
def builtin? (name : Octets) : Option Builtin :=
  match String.ofList name with
  | "command" => Builtin.plain command
  | "hash" => Builtin.plain (hash isBuiltin)
  | "type" => Builtin.plain fun args => do describeAll (← searchPath) false true isBuiltin args
  | _ => plainBuiltin? name

end RunnableDocs.Shell
