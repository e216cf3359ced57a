/-
Permissions changed, for files and for all that is below directories.
-/
import RunnableDocs.Machine.Tool.Permissions
import RunnableDocs.Machine.Tool.Tree

namespace RunnableDocs.Machine.Tool.Chmod

open Exec
open Permissions (Change)

structure Wish where
  change : Change
  mask : Nat
  recursive : Bool
  silent : Bool
  /-- changes are told of -/
  tells : Bool
  /-- what stays as it is is told of too -/
  tellsAll : Bool
  /-- it is a fault if the mask made a difference -/
  isExact : Bool

def describe (mode : Nat) : String := s!"{Permissions.digits mode} ({Permissions.shown mode})"

/-- the permissions at a place changed; the status -/
def changeAt (w : Wish) (name : Octets) (place : Location) : Exec Nat := do
  let old ← lookWorld (·.modeAt place)
  let isDirectory ← lookWorld (·.isDirectoryAt place)
  let new := w.change.apply isDirectory w.mask old
  modify fun s => { s with world := s.world.setMode place new }
  let shown := quotedName name
  if new ≠ old && (w.tells || w.tellsAll) then
    print s!"mode of {shown} changed from {describe old} to {describe new}\n".toList
  if new = old && w.tellsAll then print s!"mode of {shown} retained as {describe old}\n".toList
  let expected := w.change.apply isDirectory 0 old
  if w.isExact && Permissions.without new expected ≠ 0 then
    say s!"{plainName name}: new permissions are {Permissions.shown new}, not {Permissions.shown expected}"
    return 1
  return 0

/-- the permissions under a name changed, and of what is below it -/
def changeUnder (w : Wish) : Nat → Octets → Exec Nat
  | 0, _ => return 0
  | n + 1, name => do
    match ← entryAt name, ← placeOf? name with
    | .ok e, some place => do
      let mut status ← changeAt w name place
      if w.recursive && e = .directory then
        for inner in ← namesIn place do status := max status (← changeUnder w n (below name inner))
      return status
    | .error e, _ => do
      if !w.silent then say s!"cannot access {quotedName name}: {e.words}"
      if w.tellsAll then print s!"{quotedName name} could not be accessed\n".toList
      return 1
    | .ok _, none => return 1

/-- letters that may stand behind a dash because they write a change -/
def changeLetters : String := "rwxXstugoa,+=01234567"

def known : List Known :=
  [⟨'R', "recursive", .nothing, true⟩, ⟨'c', "changes", .nothing, true⟩, ⟨'f', "silent", .nothing, true⟩,
    ⟨'f', "quiet", .nothing, false⟩, ⟨'v', "verbose", .nothing, true⟩, ⟨'#', "reference", .something, false⟩,
    ⟨'P', "preserve-root", .nothing, false⟩, ⟨'N', "no-preserve-root", .nothing, false⟩] ++
    changeLetters.toList.map fun c => { key := c, takes := .perhaps }

/-- what is missing if there are no files -/
def missing (operands : List Octets) : Exec Nat := do
  match operands.getLast? with
  | none => misused "missing operand"
  | some last => misused s!"missing operand after {quotedName last}"

def run (args : List Octets) : Exec Nat :=
  withArguments known args fun a => do
    let dashed := a.given.filter fun g => changeLetters.toList.contains g.key
    let joined := [','].intercalate (dashed.map fun g => '-' :: g.key :: g.value.getD [])
    let given : Option Octets := if dashed = [] then none else some joined
    let reference := a.value? '#'
    if reference.isSome && given.isSome then misused "cannot combine mode and --reference options"
    else
      let mode := if reference.isSome then some [] else given.or a.operands.head?
      let names := if reference.isSome || given.isSome then a.operands else a.operands.drop 1
      if names = [] then missing (if given.isSome then [] else a.operands)
      else
        let change ← match reference with
          | some name => match ← inspect name with
            | .ok status => pure (some [Permissions.assignment (status.mode &&& Permissions.every) Permissions.every])
            | .error e => do
              say s!"failed to get attributes of {quotedName name}: {e.words}"
              return 1
          | none => pure (Permissions.ofText? (mode.getD []))
        match change with
        | none => misused s!"invalid mode: {quotedName (mode.getD [])}"
        | some change => do
          let wish : Wish :=
            { change
              mask := ← gets (·.me.mask)
              recursive := a.has 'R'
              silent := a.has 'f'
              tells := a.last? "cv" = some 'c'
              tellsAll := a.last? "cv" = some 'v'
              isExact := given.isSome }
          let mut status := 0
          for name in names do status := max status (← changeUnder wish 1000 name)
          return status

end RunnableDocs.Machine.Tool.Chmod
