/-
The commands that move a shell to another directory and tell where it is.

A shell keeps the path by which it came to its directory. Going up from there takes names off that path.
-/
import RunnableDocs.Machine.Status
import RunnableDocs.Shell.Builtin.Printing

namespace RunnableDocs.Shell.Builtin

open Machine (Exec)
open Machine.Exec

/-- the path of the directory as the system tells it; nothing if there is none -/
def systemDirectory : Exec Octets := do
  match ← lookWorld (·.currentPath) with
  | .ok p => return Octets.ofText p
  | .error e => do
    warn s!"getcwd() failed: {e.words}"
    return []

/-- a path followed from another one by its names alone; two slashes at the start are kept -/
def followed (here path : Octets) : Octets :=
  let (root, base, path) :=
    if path.head? = some '/' then
      let isDouble := path.take 2 = ['/', '/'] && (path.drop 2).head? ≠ some '/'
      (if isDouble then ['/', '/'] else ['/'], [], path)
    else (if here.take 2 = ['/', '/'] then ['/', '/'] else ['/'], Path.pieces here, path)
  let pieces := (Path.pieces path).foldl (fun acc piece =>
    if piece = ['.'] then acc else if piece = ['.', '.'] then acc.dropLast else acc ++ [piece]) base
  root ++ ['/'].intercalate pieces

/-- the directory noted, and told to programs -/
def noteDirectory (path : Octets) (withOld : Bool) : Exec Unit := do
  if withOld then
    setVariable "OLDPWD".toList (some (← ofShell (·.directory))) fun v => { v with exported := true }
  changeShell fun s => { s with directory := path }
  setVariable "PWD".toList (some path) fun v => { v with exported := true }

/-- the shell moved; false if the system refuses -/
def move (physical : Bool) (target : Octets) : Exec Bool := do
  let here ← ofShell (·.directory)
  let isKnown := !physical && (target.head? = some '/' || here ≠ [])
  let goal := if isKnown then followed here target else target
  match ← changeWorld (·.changeDirectory (Octets.toText goal)) with
  | .error _ => return false
  | .ok () => do
    let here ← if isKnown then pure goal else systemDirectory
    noteDirectory here true
    return true

/-- a path that is not looked for among other directories -/
def isDirect (path : Octets) : Bool :=
  path.head? = some '/' || path = ['.'] || path = ['.', '.'] || path.take 2 = ['.', '/'] || path.take 3 = ['.', '.', '/']

/-- the first directory of that name, and whether it was found under another one -/
def searched (places : List Octets) (name : Octets) : Exec (Option (Octets × Bool)) := do
  for place in places do
    let path := if place = [] then name else place ++ '/' :: name
    match ← inspect path with
    | .ok s => if s.kind = .directory then return some (path, place ≠ [])
    | .error _ => pure ()
  return none

/-- the last of two letters in options of a directory command asks for the path of the system -/
def isPhysical (options : List (Char × Octets)) : Bool := (options.getLast?.map (·.1)) = some 'P'

def cd (args : List Octets) : Exec Nat := do
  let (options, args) ← optionsOf "LP" args
  let back := args.head? = some ['-']
  let target : Octets ← match args with
    | [] => do pure ((← value? "HOME".toList).getD [])
    | a :: _ => if back then do pure ((← value? "OLDPWD".toList).getD []) else pure a
  let target : Octets := if target = [] then ['.'] else target
  let places := match ← value? "CDPATH".toList with
    | some t => Text.splitOn ':' t
    | none => [[]]
  let found ← if isDirect target then pure none else searched places target
  let (path, shows) := found.getD (target, false)
  if ← move (isPhysical options) path then
    if back || shows then printLine (← ofShell (·.directory))
    return 0
  else refuse s!"can't cd to {target.shown}"

def pwd (args : List Octets) : Exec Nat := do
  let (options, _) ← optionsOf "LP" args
  printLine (← if isPhysical options then systemDirectory else ofShell (·.directory))
  return 0

end RunnableDocs.Shell.Builtin
