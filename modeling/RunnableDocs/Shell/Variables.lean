/-
The variables of a shell.

A variable has a value or none; it may be exported, and it may be read only, and then every change of it is refused.
Some are known from the beginning and outlast the loss of their values. What a function or a command makes local is put
back when it is left (`withLocals`).
-/
import RunnableDocs.Shell.Runner

namespace RunnableDocs.Shell

open Machine (Exec ShellState Variable Saved)
open Machine.Exec

def named? (name : Octets) : Exec (Option Variable) := ofShell fun s => s.bindings.find? (·.name = name)

def value? (name : Octets) : Exec (Option Octets) := return (← named? name).bind (·.value)

/-- a variable put in its place, or behind all others if it is new -/
def putVariable (v : Variable) : Exec Unit := changeShell fun s =>
  { s with bindings :=
      if s.bindings.any (·.name = v.name) then s.bindings.map fun old => if old.name = v.name then v else old
      else s.bindings ++ [v] }

def dropVariable (name : Octets) : Exec Unit := changeShell fun s =>
  { s with bindings := s.bindings.filter (·.name ≠ name) }

/-- what the shell itself does when certain variables change -/
def noticeChange (name : Octets) (value : Option Octets) : Exec Unit := do
  match String.ofList name with
  | "OPTIND" =>
    let n ← match value with
      | none => pure 1
      | some [] => pure 1
      | some t => number t
    changeShell fun s => { s with optionIndex := if n = 0 then 1 else n, optionOffset := none }
  | "PATH" => changeShell fun s => { s with hashed := [] }
  | _ => return ()

/-- a value given to a variable, or taken from it, and what else is to be changed of it -/
def setVariable (name : Octets) (value : Option Octets) (change : Variable → Variable) (quietly : Bool := false) :
    Exec Unit := do
  let all ← hasOption 'a'
  let old := (← named? name).getD { name, value := none }
  if old.readOnly then refuse s!"{name.shown}: is read only"
  if !quietly then noticeChange name value
  let new := change { old with value, exported := old.exported || all }
  let bare := change { name, value := none, exported := all }
  if value.isNone && !old.stays && !bare.exported && !bare.readOnly && !bare.stays then dropVariable name
  else putVariable new

def assign (name value : Octets) : Exec Unit := setVariable name (some value) id

/-- a name, and the value that an equals sign gives it -/
def assigned (t : Octets) : Octets × Option Octets :=
  let name := t.takeWhile (· ≠ '=')
  (name, if name.length < t.length then some (t.drop (name.length + 1)) else none)

/-- the refusal of what is no name -/
def checkName (name : Octets) : Exec Unit := do
  if !isName name then refuse s!"{name.shown}: bad variable name"

/-! ## What is local -/

/-- a variable made local: a value may be given to it, and what it was is put back later -/
def makeLocal (t : Octets) (exported : Bool) : Exec Unit := do
  let save (entry : Saved) : Exec Unit := changeShell fun s =>
    { s with locals := match s.locals with
        | [] => []
        | frame :: rest => (entry :: frame) :: rest }
  if t = ['-'] then save (.options (← ofShell (·.options)))
  else
    let (name, value) := assigned t
    let old ← named? name
    if value.isNone && old.isNone then checkName name
    match value, old with
    | some v, _ => setVariable name (some v) fun x => { x with exported := x.exported || exported, stays := true }
    | none, none => setVariable name none fun x => { x with stays := true }
    | none, some x => putVariable { x with stays := true }
    save (.variable name old)

def putBack : Saved → Exec Unit
  | .options letters => changeShell fun s => { s with options := letters }
  | .variable name none => do
    let _ ← noticeChange name none
    dropVariable name
  | .variable name (some old) => do
    noticeChange name old.value
    putVariable old

/-- an action after which everything that was made local in it is put back -/
def withLocals {α : Type} (x : Exec α) : Exec α := do
  changeShell fun s => { s with locals := [] :: s.locals }
  let result ← settled x
  for entry in (← ofShell (·.locals)).headD [] do putBack entry
  changeShell fun s => { s with locals := s.locals.drop 1 }
  match result with
  | .ok a => return a
  | .error e => throw e

/-! ## Beginnings -/

/-- what every shell knows -/
def knownVariables : List Variable :=
  let known (name : String) (value : Option String) : Variable :=
    { name := name.toList, value := value.map String.toList, stays := true }
  [known "IFS" (some " \t\n"), known "MAIL" none, known "MAILPATH" none,
    { name := "PATH".toList, value := some Machine.Image.defaultSearchPath, stays := true },
    known "PS1" (some "# "), known "PS2" (some "> "), known "PS4" (some "+ "), known "OPTIND" (some "1")]

/-- the variables with which a shell begins, of the ones that were handed on to it -/
def bindingsFrom (environment : List (Octets × Octets)) (parent : Nat) : List Variable :=
  let take (bindings : List Variable) (e : Octets × Octets) : List Variable :=
    let own := e.1 = "IFS".toList || e.1 = "OPTIND".toList
    if !isName e.1 then bindings
    else if bindings.any (·.name = e.1) then bindings.map fun v =>
      if v.name = e.1 then { v with value := if own then v.value else some e.2, exported := true } else v
    else bindings ++ [{ name := e.1, value := some e.2, exported := true }]
  let bindings := environment.foldl take knownVariables
  bindings.filter (·.name ≠ "PPID".toList) ++ [{ name := "PPID".toList, value := some (Octets.ofNat parent) }]

/-- the place of a name among the variables that are handed on -/
def bucket (name : Octets) : Nat :=
  (name.foldl (fun n c => n + c.toNat) ((name.headD '\x00').toNat * 16)) % 39

/-- the variables that are handed on to programs -/
def environment : Exec (List (Octets × Octets)) := do
  let exported := (← ofShell (·.bindings)).filterMap fun v =>
    if v.exported then v.value.map fun t => (v.name, t) else none
  return exported.mergeSort fun a b => bucket a.1 ≤ bucket b.1

end RunnableDocs.Shell
