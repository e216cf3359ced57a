/-
Files made where there are none, and their times set.
-/
import RunnableDocs.Machine.Tool.Choice
import RunnableDocs.Machine.Tool.Date
import RunnableDocs.Machine.Tool.Tree

namespace RunnableDocs.Machine.Tool.Touch

open Exec

/-- a moment in milliseconds -/
abbrev Moment := Int

def setChanged (place : Location) (t : Moment) : Exec Unit := modify fun s =>
  { s with world := s.world.modifyAt place ({ · with changed := t }) }

/-- a file made if it is not there; why it cannot be, unless its name asks for a directory -/
def make (name : Octets) : Exec (Option SystemError) := do
  match ← openFile name { writes := true } with
  | .ok opened => withOpened opened fun _ => return none
  | .error .isDirectory => return none
  | .error e => return some e

/-- one file touched; the status -/
def touchOne (mayMake follows changes : Bool) (t : Option Moment) (name : Octets) : Exec Nat := do
  if name = dash then return 0
  let trouble ← if mayMake && follows then make name else pure none
  match ← entryAt name, ← placeOf? name, trouble with
  | .ok _, some place, _ => do
    if changes then setChanged place (t.getD (← lookWorld (·.now)))
    return 0
  | _, _, some e => do
    say s!"cannot touch {quotedName name}: {e.words}"
    return 1
  | .error e, _, none =>
    if !mayMake && e = .noEntry then return 0
    else do
      say s!"setting times of {quotedName name}: {e.words}"
      return 1
  | _, _, _ => return 0

def known : List Known :=
  [⟨'c', "no-create", .nothing, true⟩, ⟨'d', "date", .something, true⟩, ⟨'r', "reference", .something, true⟩,
    ⟨'h', "no-dereference", .nothing, true⟩, ⟨'T', "time", .something, false⟩,
    { key := 't', takes := .something }] ++ letters "amf"

inductive Time where
  /-- of the last time that somebody looked -/
  | access
  /-- of the last change -/
  | change
  deriving DecidableEq, Repr

def times : Choice Time :=
  [("atime", .access), ("access", .access), ("use", .access), ("mtime", .change), ("modify", .change)]

def refuse? (g : Given) : Option Refusal := if g.key = 'T' then times.refuse? "--time" g else none

def run (args : List Octets) : Exec Nat :=
  withArguments known args (fun a => do
    let now ← lookWorld (·.now)
    let seconds := now.fdiv 1000
    let named := (a.given.filter (·.key = 'T')).filterMap fun g => times.meaning? (g.value.getD [])
    let onlyAccess := (a.has 'a' || named.contains .access) && !a.has 'm' && !named.contains .change
    let stamp := a.value? 't'
    match stamp, stamp.bind (Date.ofStamp? seconds) with
    | some text, none => do
      say s!"invalid date format {quotedName text}"
      return 1
    | _, fromStamp =>
      if stamp.isSome && (a.has 'r' || a.has 'd') then misused "cannot specify times from more than one source"
      else
        let reference ← match a.value? 'r' with
          | none => pure none
          | some name => match ← inspect name with
            | .ok status => pure (some status.changed)
            | .error e => do
              say s!"failed to get attributes of {quotedName name}: {e.words}"
              return 1
        let base := (reference.map (·.fdiv 1000)).getD seconds
        let date := a.value? 'd'
        match date, date.bind (Date.ofText? base) with
        | some text, none => do
          say s!"invalid date format {quotedName text}"
          return 1
        | _, fromDate =>
          if a.operands = [] then misused "missing file operand"
          else
            let t := ((fromDate.or fromStamp).map (· * 1000)).or reference
            let mut status := 0
            for name in a.operands do
              status := max status (← touchOne (!a.has 'c') (!a.has 'h') (!onlyAccess) t name)
            return status) false 1 refuse?

end RunnableDocs.Machine.Tool.Touch
