/-
Trees of files as tools walk through them: what is under a name, and under what is under it.
-/
import RunnableDocs.Machine.Tool.Input

namespace RunnableDocs.Machine.Tool

open Exec

/-- the last piece of a name, without slashes behind it; what is only slashes is the root -/
def baseName (name : Octets) : Octets :=
  match ((Text.splitOn '/' name).filter (· ≠ [])).getLast? with
  | some last => last
  | none => if name = [] then [] else ['/']

/-- a name without the slashes behind it -/
def withoutSlashes (name : Octets) : Octets :=
  let short := (name.reverse.dropWhile (· = '/')).reverse
  if short = [] then name.take 1 else short

/-- a name below a directory -/
def below (dir name : Octets) : Octets := if dir.getLast? = some '/' then dir ++ name else dir ++ '/' :: name

def entryAt (name : Octets) : Exec (Except SystemError Entry) := lookWorld (·.at? (Octets.toText name))

/-- the place that a name leads to, if everything on the way is there -/
def placeOf? (name : Octets) : Exec (Option Location) := lookWorld fun w => (w.resolve (Octets.toText name)).toOption

/-- the names in the directory at a place, sorted -/
def namesIn (place : Location) : Exec (List Octets) := return (← lookWorld (·.childrenAt place)).map Octets.ofText

/-- a name that stands for a directory itself or for the one above it -/
def isDots (name : Octets) : Bool := baseName name = ['.'] || baseName name = ['.', '.']

/-- a line of the input, which is read in blocks -/
def readLine : Nat → Exec Octets
  | 0 => return []
  | n + 1 => do
    let ahead ← gets (·.me.readAhead)
    if ahead.contains '\n' then
      let line := ahead.takeWhile (· ≠ '\n')
      changeMe fun p => { p with readAhead := ahead.drop (line.length + 1) }
      return line
    match ← readSome 0 4096 with
    | .ok (c :: block) => do
      changeMe fun p => { p with readAhead := ahead ++ c :: block }
      readLine n
    | _ => do
      changeMe fun p => { p with readAhead := [] }
      return ahead

/-- what has been read of the input and not been looked at given back, if that is possible -/
def giveBackInput : Exec Unit := do
  giveBack 0 (← gets (·.me.readAhead.length))
  changeMe fun p => { p with readAhead := [] }

/-- a question, and whether the next line of the input agrees -/
def isAgreed (question : String) : Exec Bool := do
  if let .error e ← flush then changeMe fun p => { p with printError := some e }
  complain s!"{(← gets (·.me.called)).shown}: {question}"
  let line ← readLine manyTimes
  return line.head?.any fun c => c = 'y' || c = 'Y'

end RunnableDocs.Machine.Tool
